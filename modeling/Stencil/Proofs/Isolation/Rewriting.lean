import Stencil.Proofs.Isolation.Meaning

namespace Stencil
namespace Regex

/-!
What the scan for groups gives for an expression that can be compiled.  The
scan gives nothing only where a comment or the name of a group has no end for
it, and in such an expression all of them have one.  What it gives need not be
an expression: references and conditions have lost their groups, and flags may
be misplaced.  But no limit is met in it, for its counts and its code points
have all been read in the expression, up to the first thing that is invalid.
All this is so as long as the scan takes nothing for a comment, or for its
end, that is none.

The main statement is `exists_rewrite?`.
-/

open Comparison (uncaptured isCongruent_uncaptured)
open Isolation (Region withoutCapturesFrom? splitFlags groupLeadingFlags isLeadingFlag)

theorem GroupKind.Uncaptured.right_ne_capture {left right : GroupKind}
    (facing : Uncaptured left right) (group : Nat) : right ≠ .capture group := by
  cases facing <;> exact nofun

theorem GroupKind.Uncaptured.right_ne_conditional {left right : GroupKind}
    (facing : Uncaptured left right) (group : Nat) : right ≠ .conditional group := by
  cases facing <;> exact nofun

/-- Where what is assembled on both sides is similar, the right-hand side may
go on wherever the left-hand side does. -/
theorem Comparison.Similar.faces {rightKind : GroupKind} {rightBelow : List Frame} {moved : Flags}
    {left right : Assembly} (similar : (uncaptured rightKind rightBelow moved).Similar left right)
    (capturesNot : forall group, rightKind ≠ .capture group)
    (dependsNot : forall group, rightKind ≠ .conditional group) : Reading.Faces left right := by
  have verbose := similar.verbose
  rcases similar with ⟨_, stacked, _, _, _⟩
  cases stacked with
  | base frames leftKind kind _ leftBelow _ =>
      refine ⟨verbose, fun opened => absurd leftBelow opened,
        (repeatProblem?_eq_none_congr frames.pieces).mp, ?_, ?_⟩
      · exact fun _ group same => capturesNot group (kind.symm.trans same)
      · exact fun group same => dependsNot group (kind.symm.trans same)
  | push frames kinds outer =>
      refine ⟨verbose, fun _ outermost => ?_, (repeatProblem?_eq_none_congr frames.pieces).mp,
        fun _ => kinds.right_ne_capture, kinds.right_ne_conditional⟩
      rw [outermost] at outer
      generalize left.outer = leftOuter at outer
      cases outer

namespace Reading

variable {reading later begun left right : Reading} {text : List Char} {leftEnd : Assembly}
  {verbose : Bool} {region : Region} {total outcome : Option (List Char)}

/-! ## Hopeless readings -/

/-- Whatever is read next, something invalid has been met or will be.  In the
second case the name of a condition is being read that none has; a parenthesis
would end it, and there is nothing to tell it from any other name before
that. -/
inductive IsHopeless : Except Fault Reading -> Prop where
  | invalid (problem : Problem) (place : Option Nat) : IsHopeless (.error (.invalid problem place))
  | astray (position start : Nat) (assembly : Assembly) {characters : List Char} {symbol : Char}
      (foreign : Text.standsInNames symbol = false) (member : symbol ∈ characters) :
      IsHopeless (.ok ⟨position, .opening start (.conditionName characters), assembly⟩)

namespace IsHopeless

variable {read : Except Fault Reading}

theorem of_isInvalid (invalid : IsInvalid read) : IsHopeless read := by
  rcases invalid with ⟨problem, place, rfl⟩
  exact .invalid problem place

theorem takeAll (hopeless : IsHopeless read) (tokens : List Token) :
    IsHopeless (read >>= fun reading => reading.takeAll tokens) := by
  induction tokens generalizing read with
  | nil =>
      cases hopeless with
      | invalid problem place => exact .invalid problem place
      | astray position start assembly foreign member =>
          exact .astray position start assembly foreign member
  | cons token rest inductiveHypothesis =>
      cases hopeless with
      | invalid problem place => exact .invalid problem place
      | @astray position start assembly characters symbol foreign member =>
          have first : IsHopeless
              (take ⟨position, .opening start (.conditionName characters), assembly⟩ token) := by
            have unrefused : Unrefused
                (take ⟨position, .opening start (.conditionName characters), assembly⟩ token) :=
              unrefused_take_opening rfl
            rcases unrefused_iff.mp unrefused with ⟨later, taken⟩ | invalid
            · rw [taken, take_conditionName foreign member taken]
              exact .astray _ _ _ foreign (List.mem_append_left _ member)
            · exact of_isInvalid invalid
          exact inductiveHypothesis first

theorem finish (hopeless : IsHopeless read) : Unrefused (read >>= Reading.finish) := by
  cases hopeless with
  | invalid problem place => exact nofun
  | @astray position start assembly characters symbol foreign member =>
      exact (Opening.conditionName characters).unrefused_endFault position

end IsHopeless

/-! ## What has been read so far -/

/-- What the scan has given so far has been read, with an outcome of which
this holds.  The rest of what it gives is still to be read, and is nothing if
the scan does not get through. -/
def Led (begun : Reading) (total : Option (List Char)) (reached : Except Fault Reading -> Prop)
    (outcome : Option (List Char)) : Prop :=
  ∃ front, total = outcome.map (front ++ ·) ∧ (Token.split front).2 = false ∧
    reached (begun.takeAll (Token.split front).1)

theorem led_refl {reached : Except Fault Reading -> Prop} (holds : reached (.ok begun)) :
    Led begun total reached total :=
  ⟨[], Option.map_id.symm ▸ rfl, rfl, holds⟩

theorem led_append {front more : List Char} {reached : Except Fault Reading -> Prop}
    (same : total = (outcome.map (more ++ ·)).map (front ++ ·))
    (whole : (Token.split front).2 = false) (moreWhole : (Token.split more).2 = false)
    (holds : reached (begun.takeAll (Token.split front).1 >>= fun reading =>
      reading.takeAll (Token.split more).1)) : Led begun total reached outcome := by
  have tokens := Token.split_append whole more
  refine ⟨front ++ more, ?_, ?_, ?_⟩
  · rw [same, Option.map_map]
    congr 1
    funext rest
    exact (List.append_assoc front more rest).symm
  · rw [tokens]
    exact moreWhole
  · rw [tokens, takeAll_append]
    exact holds

theorem takeAll_singleton (reading : Reading) (token : Token) :
    reading.takeAll [token] = reading.take token := by
  simp only [takeAll, List.foldlM_cons, List.foldlM_nil, bind_pure]

/-- A plain group is opened in place of one that captures. -/
theorem takeAll_plainGroup (position start : Nat) (assembly : Assembly) :
    takeAll ⟨position, .opening start .parenthesis, assembly⟩ (Token.split ['?', ':']).1 =
      .ok ⟨position + 1 + 1, .item, assembly.openGroup .plain start assembly.frame.verbose⟩ := by
  refine takeAll_cons_eq_ok_iff.mpr ⟨_, take_opening_further rfl rfl, ?_⟩
  refine takeAll_cons_eq_ok_iff.mpr ⟨_, ?_, rfl⟩
  rw [take_opening rfl]
  rfl

/-- A group in the place of the name of a condition makes it a name that no
condition has. -/
theorem isHopeless_takeAll_condition (position start : Nat) (assembly : Assembly) :
    IsHopeless (takeAll ⟨position, .opening start .question, assembly⟩
      (Token.split ['(', '?', ':']).1) := by
  have foreign : Text.standsInNames '?' = false := by
    decide +kernel
  have taken : takeAll ⟨position, .opening start .question, assembly⟩
        (Token.split ['(', '?', ':']).1 =
      .ok ⟨position + 1 + 1 + 1, .opening start (.conditionName ['?', ':']), assembly⟩ := by
    refine takeAll_cons_eq_ok_iff.mpr ⟨_, take_opening_further rfl rfl, ?_⟩
    refine takeAll_cons_eq_ok_iff.mpr ⟨_, take_opening_further rfl rfl, ?_⟩
    exact takeAll_cons_eq_ok_iff.mpr ⟨_, take_opening_further rfl rfl, rfl⟩
  rw [taken]
  exact .astray _ _ _ foreign List.mem_cons_self

/-- The right-hand side is alike and has no groups, or nothing good will come
of it.  Either way no limit has been met. -/
inductive IsSpared (setting : Setting) (left right : Reading) : Except Fault Reading -> Prop where
  | alike (alike : Alike setting.comparison left right) (plain : right.assembly.IsPlain)
      (dependsNot : left.mode.DependsNot) : IsSpared setting left right (.ok right)
  | hopeless {read : Except Fault Reading} (hopeless : IsHopeless read) :
      IsSpared setting left right read

/-- It stays so with more of what the scan gives, if it does where the
right-hand side is alike. -/
theorem Led.goesOn {setting : Setting} {leftLater : Reading} {more : List Char}
    (led : Led begun total (IsSpared setting left right) (outcome.map (more ++ ·)))
    (whole : (Token.split more).2 = false)
    (goesOn : Alike setting.comparison left right -> right.assembly.IsPlain ->
      left.mode.DependsNot -> ∃ rightLater,
        IsSpared setting leftLater rightLater (right.takeAll (Token.split more).1)) :
    ∃ rightLater, Led begun total (IsSpared setting leftLater rightLater) outcome := by
  rcases led with ⟨front, same, frontWhole, spared⟩
  generalize read : begun.takeAll (Token.split front).1 = reached at spared
  cases spared with
  | alike alike plain dependsNot =>
      rcases goesOn alike plain dependsNot with ⟨rightLater, later⟩
      refine ⟨rightLater, led_append same frontWhole whole ?_⟩
      rw [read]
      exact later
  | hopeless hopeless =>
      refine ⟨right, led_append same frontWhole whole ?_⟩
      rw [read]
      exact .hopeless (hopeless.takeAll _)

/-- What the scan gives is read without meeting a limit.  The reading may come
to be hopeless on the way, and then it need not stay alike. -/
def Guide.spared (setting : Setting) (capturesNot : forall group, setting.rightKind ≠ .capture group)
    (dependsNot : forall group, setting.rightKind ≠ .conditional group) (begun : Reading)
    (total : Option (List Char)) : Guide setting where
  test := showsComments setting.verbose
  shows shown := shown
  leads left right outcome := Led begun total (IsSpared setting left right) outcome
  takes := by
    intro left settled leftLater right token ahead outcome proper settling _ done _ capturing begins
      led
    have tokens := Token.split_single proper
    refine led.goesOn (congrArg Prod.snd tokens) fun alike plain names => ?_
    rw [tokens, takeAll_singleton]
    have leftTaken : left.take token = .ok leftLater := take_eq_ok_iff.mpr ⟨settled, settling, done⟩
    rcases takes_or_stops (isCongruent_uncaptured _ _ _)
        (fun similar => similar.faces capturesNot dependsNot) alike plain settling done capturing
        names with ⟨rightLater, taken, laterAlike, laterPlain⟩ | invalid
    · refine ⟨rightLater, ?_⟩
      rw [taken]
      exact .alike laterAlike laterPlain (dependsNot_take names begins leftTaken)
    · exact ⟨right, .hopeless (.of_isInvalid invalid)⟩
  opens := by
    intro position start stop assembly opened right name outcome captured led
    refine led.goesOn rfl fun alike plain _ => ?_
    rcases alike.opens captured stop (right.position + 1 + 1) with
      ⟨rightPosition, other, rightAssembly, rfl, later⟩
    refine ⟨⟨rightPosition + 1 + 1, .item,
      rightAssembly.openGroup .plain other rightAssembly.frame.verbose⟩, ?_⟩
    rw [takeAll_plainGroup rightPosition other rightAssembly]
    exact .alike later ((Assembly.sameNotes_openGroup _ _ _ _).isPlain plain) trivial
  depends := by
    intro position stop start assembly right ahead outcome _ led
    refine led.goesOn rfl fun alike _ _ => ⟨right, .hopeless ?_⟩
    rcases right with ⟨rightPosition, rightMode, rightAssembly⟩
    rcases alike with ⟨modes, _⟩
    cases modes with
    | opening _ other _ => exact isHopeless_takeAll_condition _ _ _

/-! ## To the end -/

/-- What invalid thing is met at the end is met as well if something follows
that ends comments and groups. -/
theorem unrefused_of_complete (ends : forall character, character ∈ text -> character ∈ [')', '\n'])
    (notNaming : reading.mode.isNaming = false) (invalid : IsInvalid (reading.complete none)) :
    Unrefused (reading.takeAll (Token.plain text) >>= finish) := by
  rcases invalid with ⟨problem, place, stopped⟩
  cases text with
  | nil =>
      have ended : reading.finish = .error (.invalid problem place) := by
        unfold finish settle
        rw [stopped]
        rfl
      have same : (reading.takeAll (Token.plain []) >>= finish) = reading.finish := rfl
      rw [same, ended]
      exact .invalid
  | cons character rest =>
      have taken : reading.take ⟨false, character⟩ = .error (.invalid problem place) := by
        unfold take settle
        rw [complete_ending (ends character List.mem_cons_self) notNaming, stopped]
        rfl
      have all : reading.takeAll (Token.plain (character :: rest)) =
          .error (.invalid problem place) := takeAll_cons_of_error taken (Token.plain rest)
      rw [all]
      exact .invalid

/-- Where the expression ends, what the scan gives can be read to its end as
well, or it is invalid. -/
theorem Together.exists_unrefused {setting : Setting}
    {capturesNot : forall group, setting.rightKind ≠ .capture group}
    {dependsNot : forall group, setting.rightKind ≠ .conditional group}
    (together : Together (.spared setting capturesNot dependsNot begun total) [] region left right)
    (reads : forall {completed : Reading}, IsComplete setting right completed ->
      completed.assembly.IsPlain -> ∃ ended, right.ReadsTo setting.back ended) :
    ∃ output, total = some output ∧ (Token.split output).2 = false ∧
      Unrefused (begun.takeAll (Token.split output).1 >>= finish) := by
  have noBackslash : '\\' ∉ setting.back := fun member =>
    absurd (setting.backCloses _ member) (by decide)
  have backTokens := Token.split_plain noBackslash
  rcases together.scansBack with ⟨front, same, whole, spared⟩
  have tokens := Token.split_append whole setting.back
  refine ⟨front ++ setting.back, same, ?_, ?_⟩
  · rw [tokens, backTokens]
  rw [tokens, backTokens, takeAll_append]
  generalize begun.takeAll (Token.split front).1 = read at spared
  cases spared with
  | alike alike plain names =>
      rcases together.exists_complete with ⟨leftDone, leftCompleting, _⟩
      have capturing := capturesNot_of_isScanned together.inStep.scanned none
      have opensNone : OpensNone (fun _ => True) none left.mode := ⟨.inr capturing, .inr names⟩
      have refersNot : RefersNot (fun _ => True) True right.assembly := .stopped plain trivial
      rcases follows_complete refersNot alike.mode opensNone leftDone leftCompleting trivial with
        ⟨completed, completing, notes⟩ | ⟨_, invalid⟩
      · have donePlain := notes.isPlain plain
        rcases reads (together.isComplete alike completing donePlain) donePlain with
          ⟨ended, _, done⟩
        rw [backTokens] at done
        exact done ▸ .ok
      · have notNaming : right.mode.isNaming = false :=
          alike.mode.isNaming_eq ▸ isNaming_of_complete leftCompleting
        exact unrefused_of_complete setting.backCloses notNaming invalid
  | hopeless hopeless => exact (hopeless.takeAll _).finish

/-- What the scan gives for an expression without leading flags is no
expression at worst. -/
theorem exists_unrefused_alone (leftReads : initial.ReadsTo text leftEnd)
    (legible : initial.isLegible verbose (Token.split text).1 = true) :
    ∃ output, withoutCapturesFrom? verbose .outside text = some output ∧
      (Token.split output).2 = false ∧
      Unrefused (initial.takeAll (Token.split output).1 >>= finish) := by
  let guide : Guide (.alone verbose leftEnd) :=
    .spared _ nofun nofun initial (withoutCapturesFrom? verbose .outside (text ++ []))
  rw [isLegible_eq_passes] at legible
  rcases guide.reachesEnd rfl leftReads legible
    (led_refl (.alike (alike_alone verbose leftEnd) Assembly.isPlain_initial trivial)) with
    ⟨_, left, right, last⟩
  have whole := last.exists_unrefused fun complete plain => ⟨_, complete.readsTo_nil plain⟩
  rwa [List.append_nil] at whole

/-- So it is for an expression after its leading flags, in a group that sets
them. -/
theorem exists_unrefused_flagged (other : Nat) {flags : Flags} {stop : Nat}
    (leftReads : ReadsTo ⟨stop, .item, Assembly.initial.setFlags flags⟩ text leftEnd)
    (legible : isLegible verbose ⟨stop, .item, Assembly.initial.setFlags flags⟩
      (Token.split text).1 = true) :
    ∃ output, withoutCapturesFrom? verbose .outside (text ++ flags.ending) = some output ∧
      (Token.split output).2 = false ∧
      Unrefused (takeAll
        ⟨other, .item, Assembly.initial.openGroup (.flagged ⟨flags, {}⟩) 0 flags.verbose⟩
        (Token.split output).1 >>= finish) := by
  let begun : Reading :=
    ⟨other, .item, Assembly.initial.openGroup (.flagged ⟨flags, {}⟩) 0 flags.verbose⟩
  let guide : Guide (.flagged flags verbose leftEnd) :=
    .spared _ nofun nofun begun (withoutCapturesFrom? verbose .outside (text ++ flags.ending))
  have plain : begun.assembly.IsPlain := ⟨rfl, rfl, rfl, rfl⟩
  rw [isLegible_eq_passes] at legible
  rcases guide.reachesEnd rfl leftReads legible
    (led_refl (.alike (alike_flagged flags verbose leftEnd stop other) plain trivial)) with
    ⟨_, left, right, last⟩
  exact last.exists_unrefused fun complete plain => ⟨_, (complete.readsTo_ending plain).1⟩

variable {letters : List Char}

/-- No limit is met in the letters of flags.  What is wrong with them, if
anything, is invalid. -/
theorem unrefused_takeAll_flagsOn (position start : Nat) (assembly : Assembly) (added : Flags)
    (leading : letters.all isLeadingFlag = true) :
    Unrefused (takeAll ⟨position, .opening start (.flagsOn added), assembly⟩
      (Token.plain (letters ++ [':']))) := by
  induction letters generalizing position added with
  | nil =>
      have single := takeAll_singleton ⟨position, .opening start (.flagsOn added), assembly⟩
        ⟨false, ':'⟩
      exact single ▸ unrefused_take_opening rfl
  | cons letter rest inductiveHypothesis =>
      rw [List.all_cons, Bool.and_eq_true] at leading
      have first : Unrefused
          (take ⟨position, .opening start (.flagsOn added), assembly⟩ ⟨false, letter⟩) :=
        unrefused_take_opening rfl
      rcases unrefused_iff.mp first with ⟨later, taken⟩ | ⟨problem, place, stopped⟩
      · have further := take_flag rfl (fun stop => (Opening.take_leadingFlag leading.1 added stop).2)
          taken
        have all := takeAll_cons_of_ok taken (Token.plain (rest ++ [':']))
        rw [List.cons_append, Token.plain, List.map_cons, ← Token.plain, all, further]
        exact inductiveHypothesis _ _ leading.2
      · have all := takeAll_cons_of_error stopped (Token.plain (rest ++ [':']))
        exact all ▸ .invalid

theorem unrefused_takeAll_flagged (position : Nat) (assembly : Assembly) (nonempty : letters ≠ [])
    (leading : letters.all isLeadingFlag = true) :
    Unrefused (takeAll ⟨position, .item, assembly⟩
      (Token.plain ('(' :: '?' :: letters ++ [':']))) := by
  cases letters with
  | nil => exact absurd rfl nonempty
  | cons letter rest =>
      rw [List.all_cons, Bool.and_eq_true] at leading
      have tokens : Token.plain ('(' :: '?' :: (letter :: rest) ++ [':']) =
          ⟨false, '('⟩ :: ⟨false, '?'⟩ :: ⟨false, letter⟩ :: Token.plain (rest ++ [':']) := rfl
      have question : take ⟨position + 1, .opening position .parenthesis, assembly⟩ ⟨false, '?'⟩ =
          .ok ⟨position + 1 + 1, .opening position .question, assembly⟩ :=
        take_opening_further rfl rfl
      rw [tokens, takeAll_cons_of_ok (take_parenthesis position assembly),
        takeAll_cons_of_ok question]
      have first : Unrefused
          (take ⟨position + 1 + 1, .opening position .question, assembly⟩ ⟨false, letter⟩) :=
        unrefused_take_opening rfl
      rcases unrefused_iff.mp first with ⟨later, taken⟩ | ⟨problem, place, stopped⟩
      · have further := take_flag rfl (fun stop => (Opening.take_leadingFlag leading.1 {} stop).1)
          taken
        rw [takeAll_cons_of_ok taken, further]
        exact unrefused_takeAll_flagsOn _ _ _ _ leading.2
      · rw [takeAll_cons_of_error stopped]
        exact .invalid

/-- What the scan makes of an expression, after its leading flags have been
moved to a group, is no expression at worst. -/
theorem exists_unrefused (leftReads : initial.ReadsTo text leftEnd)
    (legible : initial.isLegible verbose (Token.split text).1 = true) :
    ∃ output, withoutCapturesFrom? verbose .outside (groupLeadingFlags text) = some output ∧
      (Token.split output).2 = false ∧
      Unrefused (initial.takeAll (Token.split output).1 >>= finish) := by
  rcases split : splitFlags text with ⟨letters, body⟩
  cases letters with
  | nil =>
      rw [groupLeadingFlags_of_splitFlags split]
      exact exists_unrefused_alone leftReads legible
  | cons letter others =>
      rcases leftReads.leadingFlags split with ⟨stop, bodyReads, bodyLegible⟩
      have leading := all_eraseDups_of_splitFlags split
      have someErased : (letter :: others).eraseDups ≠ [] := eraseDups_ne_nil nofun
      have written := split_flagged leading
      obtain ⟨other, opens⟩ : ∃ other, initial.takeAll (Token.split
            ('(' :: '?' :: (letter :: others).eraseDups ++ [':'])).1 =
          .ok ⟨other, .item, Assembly.initial.openGroup
            (.flagged ⟨.ofLetters (letter :: others), {}⟩) 0
            (Flags.ofLetters (letter :: others)).verbose⟩ ∨
          IsInvalid (initial.takeAll (Token.split
            ('(' :: '?' :: (letter :: others).eraseDups ++ [':'])).1) := by
        rw [written]
        rcases unrefused_iff.mp (unrefused_takeAll_flagged 0 .initial someErased leading) with
          ⟨opened, opening⟩ | invalid
        · rcases takeAll_flagged someErased leading opening with ⟨other, rfl⟩
          rw [Flags.ofLetters_eraseDups] at opening
          exact ⟨other, .inl opening⟩
        · exact ⟨0, .inr invalid⟩
      rcases exists_unrefused_flagged other bodyReads (bodyLegible verbose legible) with
        ⟨output, given, whole, unrefused⟩
      have tokens := Token.split_append (congrArg Prod.snd written) output
      rw [scan_groupLeadingFlags split nofun, given]
      refine ⟨'(' :: '?' :: (letter :: others).eraseDups ++ [':'] ++ output, rfl, ?_, ?_⟩
      · rw [tokens]
        exact whole
      · rw [tokens, takeAll_append]
        rcases opens with opening | ⟨problem, place, stopped⟩
        · rw [opening]
          exact unrefused
        · rw [stopped]
          exact .invalid

end Reading

/-- A text in whose reading no limit is met is not refused, though it may be
invalid. -/
theorem compile_ne_refused {text : String} (whole : (Token.split text.toList).2 = false)
    (unrefused : Unrefused (Reading.initial.takeAll (Token.split text.toList).1 >>= Reading.finish))
    (limit : Limit) : compile text ≠ .error (.refused limit) := by
  have read : Reading.read text.toList =
      Reading.initial.takeAll (Token.split text.toList).1 >>= Reading.finish := by
    unfold Reading.read
    rcases split : Token.split text.toList with ⟨tokens, dangling⟩
    rw [split] at whole
    cases whole
    rfl
  unfold compile
  rw [read]
  rcases unrefused_iff.mp unrefused with ⟨assembly, done⟩ | ⟨problem, place, stopped⟩
  · rw [done]
    dsimp only [bind, Except.bind]
    unfold ofAssembly
    dsimp only
    rcases problem : (Expr.sequence (Assembly.items assembly.frame)).problem?
        assembly.flags.unrepeated with _ | problem
    · exact nofun
    · exact nofun
  · rw [stopped]
    exact nofun

/-- What can be compiled can be rewritten, if the scan for groups sees its
comments where they are read, and no limit is met in what comes of it. -/
theorem exists_rewrite? {expression : String} {original : Regex}
    (compiled : Regex.compile expression = .ok original)
    (legible : Reading.initial.isLegible original.flags.verbose
      (Token.split expression.toList).1 = true) :
    ∃ isolated, Isolation.rewrite? original.flags.verbose expression = some isolated ∧
      forall limit, Regex.compile isolated ≠ .error (.refused limit) := by
  rcases compile_eq_ok compiled with ⟨leftEnd, leftReads, _⟩
  rcases Reading.exists_unrefused leftReads legible with ⟨output, given, whole, unrefused⟩
  refine ⟨String.ofList output, congrArg (Option.map String.ofList) given, ?_⟩
  rw [← String.toList_ofList (l := output)] at whole unrefused
  exact compile_ne_refused whole unrefused

end Regex
end Stencil

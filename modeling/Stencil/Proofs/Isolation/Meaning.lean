import Stencil.Isolation
import Stencil.Proofs.Isolation.LeadingFlags
import Stencil.Proofs.Isolation.Scanning
import Stencil.Proofs.Matcher.Structure
import Stencil.Proofs.Running.Language

namespace Stencil
namespace Regex

/-!
Isolating keeps the meaning of an expression.  What is isolated matches
exactly the same texts, provided that the scan sees every comment where it is
read, and that no code point changes its meaning by standing in a set.
-/

open Comparison (uncaptured isCongruent_uncaptured)
open Isolation (Region withoutCapturesFrom? splitFlags groupLeadingFlags)

namespace Reading

variable {reading completed later : Reading} {ended : Assembly} {text : List Char}

/-- What ends comments and groups completes what is before it as the end
does. -/
theorem ReadsTo.completes (notNaming : reading.mode.isNaming = false)
    (ends : forall character, character ∈ text -> character ∈ [')', '\n'])
    (reads : reading.ReadsTo text ended) :
    ∃ completed, reading.complete none = .ok completed ∧ completed.assembly.Becomes ended := by
  cases text with
  | nil =>
      rcases finish_eq_ok_iff.mp (readsTo_nil_iff.mp reads) with ⟨completed, completing, _, rfl⟩
      exact ⟨completed, completing, .refl⟩
  | cons character rest =>
      have member := ends character List.mem_cons_self
      have notBackslash : character ≠ '\\' := by
        rintro rfl
        exact absurd member (by decide)
      rcases (readsTo_cons_iff notBackslash).mp reads with ⟨later, taken, others⟩
      rcases take_eq_ok_iff.mp taken with ⟨settled, settling, done⟩
      have completing := (settle_eq_ok_iff.mp settling).1
      rw [complete_ending member notNaming] at completing
      exact ⟨settled, completing, (becomes_takeSettled done).trans others.becomes⟩

/-- Between two items inside of a group, a parenthesis closes it. -/
theorem take_closing (notNaming : reading.mode.isNaming = false)
    (done : reading.complete none = .ok completed) (between : completed.mode = .item)
    (inside : completed.assembly.outer ≠ []) :
    reading.take ⟨false, ')'⟩ =
      .ok ⟨completed.position + 1, .item, completed.assembly.close⟩ := by
  rcases completed with ⟨position, mode, assembly⟩
  cases between
  have allowed : refusal? ⟨position, .item, assembly⟩ (some ⟨false, ')'⟩) = none := by
    have notBar : Token.is ⟨false, ')'⟩ '|' = false := rfl
    have opened : assembly.outer.isEmpty = false := List.isEmpty_eq_false_iff.mpr inside
    simp only [refusal?, notBar, opened, Bool.and_false, Bool.false_and, Bool.false_eq_true, if_false]
  have isEnding : ')' ∈ [')', '\n'] := by
    decide
  have settling := settle_eq_ok_iff.mpr
    ⟨(complete_ending isEnding notNaming).trans done, allowed⟩
  exact take_eq_ok_iff.mpr ⟨_, settling, rfl⟩

/-- The end of a line ends a comment, and it is skipped where comments are. -/
theorem take_newline (notNaming : reading.mode.isNaming = false)
    (done : reading.complete none = .ok completed)
    (between : completed.mode = .item ∨ completed.mode = .lineComment)
    (skips : completed.assembly.frame.verbose = true) :
    reading.take ⟨false, '\n'⟩ = .ok ⟨completed.position + 1, .item, completed.assembly⟩ := by
  rcases completed with ⟨position, mode, assembly⟩
  have settles : refusal? ⟨position, mode, assembly⟩ (some ⟨false, '\n'⟩) = none ->
      reading.settle (some ⟨false, '\n'⟩) = .ok ⟨position, mode, assembly⟩ :=
    fun allowed => settle_eq_ok_iff.mpr
      ⟨(complete_ending (by decide) notNaming).trans done, allowed⟩
  rcases between with item | comment
  · cases item
    refine take_eq_ok_iff.mpr ⟨_, settles rfl, ?_⟩
    have blank : Token.passes ⟨false, '\n'⟩ (fun c => Text.isAsciiBlank c.toNat) = true := rfl
    have notBar : Token.is ⟨false, '\n'⟩ '|' = false := rfl
    have notClosing : Token.is ⟨false, '\n'⟩ ')' = false := rfl
    have verbose : assembly.frame.verbose = true := skips
    simp only [takeSettled, takeInExpression, notBar, notClosing, verbose, blank, Bool.and_self,
      Bool.false_eq_true, if_false, if_true]
    rfl
  · cases comment
    exact take_eq_ok_iff.mpr ⟨_, settles rfl, rfl⟩

theorem readsTo_nil_iff_of_item {position : Nat} {assembly : Assembly} :
    ReadsTo ⟨position, .item, assembly⟩ [] ended ↔ assembly.endFault? = none ∧ assembly = ended := by
  rw [readsTo_nil_iff, finish_eq_ok_iff]
  constructor
  · rintro ⟨_, completing, noFault, same⟩
    cases completing
    exact ⟨noFault, same⟩
  · rintro ⟨noFault, same⟩
    exact ⟨_, rfl, noFault, same⟩

/-- Where a group is to end on a new line if comments are skipped, and at once
otherwise, it is closed. -/
theorem readsTo_ending_iff (notNaming : reading.mode.isNaming = false)
    (done : reading.complete none = .ok completed)
    (between : completed.mode = .item ∨ completed.mode = .lineComment)
    (comments : completed.SkipsComments) (inside : completed.assembly.outer ≠ []) {flags : Flags}
    (skips : completed.assembly.frame.verbose = flags.verbose) :
    reading.ReadsTo flags.ending ended ↔
      completed.assembly.close.endFault? = none ∧ completed.assembly.close = ended := by
  unfold Flags.ending
  cases verbose : flags.verbose with
  | false =>
      have item : completed.mode = .item := by
        rcases between with item | comment
        · exact item
        · exact absurd ((comments comment).symm.trans (skips.trans verbose)) nofun
      have closes := take_closing notNaming done item inside
      rw [if_neg Bool.false_ne_true, List.nil_append, readsTo_cons_iff (by decide), closes]
      simp only [Except.ok.injEq, exists_eq_left', readsTo_nil_iff_of_item]
  | true =>
      have newLine := take_newline notNaming done between (skips.trans verbose)
      have closes : take ⟨completed.position + 1, .item, completed.assembly⟩ ⟨false, ')'⟩ = _ :=
        take_closing rfl rfl rfl inside
      rw [if_pos rfl, List.singleton_append, readsTo_cons_iff (by decide), newLine]
      simp only [Except.ok.injEq, exists_eq_left']
      rw [readsTo_cons_iff (by decide), closes]
      simp only [Except.ok.injEq, exists_eq_left', readsTo_nil_iff_of_item]

/-- The expression ends where it is complete, between two items or in a
comment. -/
theorem Together.exists_complete {setting : Setting} {guide : Guide setting} {region : Region}
    {left right : Reading} (together : Together guide [] region left right) :
    ∃ leftDone, left.complete none = .ok leftDone ∧
      (leftDone.mode = .item ∨ leftDone.mode = .lineComment) ∧
      leftDone.assembly = setting.leftEnd ∧ setting.leftEnd.endFault? = none := by
  rcases finish_eq_ok_iff.mp (readsTo_nil_iff.mp together.abreast.leftReads) with
    ⟨leftDone, completing, noFault, same⟩
  rcases mode_of_endFault? completing noFault with ⟨between, ends⟩
  exact ⟨leftDone, completing, between, same, same ▸ ends⟩

theorem Together.scansBack {setting : Setting} {guide : Guide setting} {region : Region}
    {left right : Reading} (together : Together guide [] region left right) :
    guide.leads left right (some setting.back) := by
  rcases together.exists_complete with ⟨leftDone, completing, between, _⟩
  have leads := together.abreast.leads
  have doneInStep := inStep_complete together.inStep completing
  rcases Isolation.scan_endings setting.backCloses with ⟨outside, inComment⟩
  rcases between with item | comment
  · rw [item] at doneInStep
    cases doneInStep.region
    exact outside ▸ leads
  · rw [comment] at doneInStep
    cases doneInStep.region
    exact inComment ▸ leads

/-- Where a parenthesis has been read on both sides, a group that captures on
the left is a plain one on the right. -/
theorem Alike.opens {setting : Setting} {position start : Nat} {assembly opened : Assembly}
    {right : Reading} {name : Option String}
    (alike : Alike setting.comparison ⟨position, .opening start .parenthesis, assembly⟩ right)
    (captured : assembly.openCapture name start = .ok opened) (stop rightStop : Nat) :
    ∃ rightPosition other rightAssembly,
      right = ⟨rightPosition, .opening other .parenthesis, rightAssembly⟩ ∧
      Alike setting.comparison ⟨stop, .item, opened⟩
        ⟨rightStop, .item,
          rightAssembly.openGroup .plain other rightAssembly.frame.verbose⟩ := by
  rcases alike with ⟨modes, similar⟩
  rcases right with ⟨rightPosition, rightMode, rightAssembly⟩
  cases modes with
  | opening start other opening =>
      exact ⟨rightPosition, other, rightAssembly, rfl, .item, similar.openCapture captured other⟩

/-- What the scan gives is known to be read to its end, without any groups
noted there.  Then each token on the right is the next one of what is known,
and there is nothing to show but that the readings stay alike. -/
def Guide.known (setting : Setting) {rightEnd : Assembly} (plain : rightEnd.IsPlain) :
    Guide setting where
  test := showsComments setting.verbose
  shows shown := shown
  leads left right outcome := Alike setting.comparison left right ∧
    ∃ output, outcome = some output ∧ right.ReadsTo output rightEnd
  takes := by
    rintro left settled leftLater right token ahead outcome proper settling _ done _ _ _
      ⟨alike, output, given, reads⟩
    rcases Option.map_eq_some_iff.mp given with ⟨further, rfl, rfl⟩
    rcases (readsTo_token_iff proper).mp reads with ⟨rightLater, taken, others⟩
    have leftTaken := take_eq_ok_iff.mpr ⟨settled, settling, done⟩
    exact ⟨rightLater, alike_take (isCongruent_uncaptured _ _ _) alike leftTaken taken
      (others.becomes.isPlain plain), further, rfl, others⟩
  opens := by
    rintro position start stop assembly opened right name outcome captured
      ⟨alike, output, given, reads⟩
    rcases alike.opens captured stop (right.position + 1 + 1) with ⟨_, other, _, rfl, later⟩
    rcases Option.map_eq_some_iff.mp given with ⟨further, rfl, rfl⟩
    rcases (readsTo_cons_iff (by decide)).mp reads with ⟨middle, question, middleReads⟩
    rw [take_opening_further rfl rfl] at question
    cases question
    rcases (readsTo_cons_iff (by decide)).mp middleReads with ⟨_, colon, laterReads⟩
    rw [take_opening rfl] at colon
    cases colon
    exact ⟨_, later, further, rfl, laterReads⟩
  depends := by
    rintro position stop start assembly right ahead outcome _ ⟨⟨modes, _⟩, output, given, reads⟩
    rcases Option.map_eq_some_iff.mp given with ⟨further, rfl, rfl⟩
    rcases (readsTo_cons_iff (by decide)).mp reads with ⟨middle, taken, middleReads⟩
    rcases right with ⟨rightPosition, rightMode, rightAssembly⟩
    cases modes
    rw [take_opening_further rfl rfl] at taken
    cases taken
    exact absurd plain (refers_of_condition middleReads.done).plain

/-- Where the expression ends, the right-hand side is complete and what has
been assembled on both sides is similar.  It may be in a comment to the end of
the line, which what follows has to end. -/
structure IsComplete (setting : Setting) (right completed : Reading) : Prop where
  notNaming : right.mode.isNaming = false
  completing : right.complete none = .ok completed
  between : completed.mode = .item ∨ completed.mode = .lineComment
  comments : completed.SkipsComments
  similar : setting.comparison.Similar setting.leftEnd completed.assembly
  leftEnds : setting.leftEnd.endFault? = none

theorem Together.isComplete {setting : Setting} {guide : Guide setting} {region : Region}
    {left right completed : Reading} (together : Together guide [] region left right)
    (alike : Alike setting.comparison left right) (completing : right.complete none = .ok completed)
    (plain : completed.assembly.IsPlain) : IsComplete setting right completed := by
  rcases together.exists_complete with ⟨leftDone, leftCompleting, between, same, leftEnds⟩
  rcases agree_complete (isCongruent_uncaptured _ _ _) alike none _ _ leftCompleting completing
    plain with ⟨modes, similar⟩
  have skips := skipsComments_complete together.abreast.skips leftCompleting
  refine ⟨alike.mode.isNaming_eq ▸ isNaming_of_complete leftCompleting, completing,
    modes.between between, ?_, same ▸ similar, leftEnds⟩
  intro comment
  rw [comment] at modes
  generalize leftMode : leftDone.mode = mode at modes
  cases modes
  exact similar.verbose.symm.trans (skips leftMode)

/-- Where the expression ends, the right-hand side goes on with what
follows. -/
theorem Together.ends {setting : Setting} {rightEnd : Assembly} {plain : rightEnd.IsPlain}
    {region : Region} {left right : Reading}
    (together : Together (.known setting plain) [] region left right) :
    ∃ completed, IsComplete setting right completed ∧ right.ReadsTo setting.back rightEnd := by
  rcases together.exists_complete with ⟨_, leftCompleting, _⟩
  rcases together.scansBack with ⟨alike, output, copied, rightReads⟩
  cases copied
  have notNaming : right.mode.isNaming = false :=
    alike.mode.isNaming_eq ▸ isNaming_of_complete leftCompleting
  rcases rightReads.completes notNaming setting.backCloses with ⟨completed, completing, becomes⟩
  exact ⟨completed, together.isComplete alike completing (becomes.isPlain plain), rightReads⟩

end Reading

/-! ## What isolating leaves -/

/-- Where nothing is open on the left, what has been read on both sides
resembles, and on the right only the group for the flags is open. -/
theorem Comparison.Similar.resemble {rightKind : GroupKind} {rightBelow : List Frame} {moved : Flags}
    {left right : Assembly} (similar : (uncaptured rightKind rightBelow moved).Similar left right)
    (noneOpen : left.outer = []) :
    Expr.Resemble (Assembly.items left.frame) (Assembly.items right.frame) ∧
      right.frame.kind = rightKind ∧ right.outer = rightBelow ∧
      right.frame.verbose = left.flags.verbose := by
  rcases similar.atBase noneOpen with ⟨frames, base⟩
  exact ⟨.alternatives (frames.allBranches (isCongruent_uncaptured _ _ _)), base⟩

namespace Reading

variable {text output : List Char} {leftEnd rightEnd : Assembly} {verbose : Bool}

/-- An expression without leading flags, which the scan leaves alone.  Nothing
follows it, and it is read in no group. -/
def Setting.alone (verbose : Bool) (leftEnd : Assembly) : Setting :=
  ⟨.whole, [], {}, verbose, [], nofun, leftEnd⟩

theorem alike_alone (verbose : Bool) (leftEnd : Assembly) :
    Alike (Setting.alone verbose leftEnd).comparison initial initial :=
  ⟨.item, false, .base ⟨rfl, .nil, .nil⟩ rfl rfl rfl rfl rfl, fun _ => rfl, fun _ => rfl, rfl,
    fun _ => rfl⟩

/-- An expression after its leading flags, which have been moved to a group
around it. -/
def Setting.flagged (flags : Flags) (verbose : Bool) (leftEnd : Assembly) : Setting :=
  ⟨.flagged ⟨flags, {}⟩, [.begin .whole 0 false], flags, verbose, flags.ending,
    fun _ => Flags.mem_ending, leftEnd⟩

theorem alike_flagged (flags : Flags) (verbose : Bool) (leftEnd : Assembly) (stop other : Nat) :
    Alike (Setting.flagged flags verbose leftEnd).comparison
      ⟨stop, .item, Assembly.initial.setFlags flags⟩
      ⟨other, .item, Assembly.initial.openGroup (.flagged ⟨flags, {}⟩) 0 flags.verbose⟩ :=
  ⟨.item, flags.verbose, .base ⟨rfl, .nil, .nil⟩ rfl rfl rfl rfl rfl, fun _ => rfl, nofun, rfl,
    fun _ => rfl⟩

namespace IsComplete

variable {right completed : Reading} {ended : Assembly} {flags : Flags}

theorem readsTo_nil (complete : IsComplete (.alone verbose leftEnd) right completed)
    (plain : completed.assembly.IsPlain) : right.ReadsTo [] completed.assembly := by
  rcases complete.similar.resemble (outer_of_endFault? complete.leftEnds) with ⟨_, _, below, _⟩
  rcases complete.similar with ⟨_, _, _, _, flags, _⟩
  have oneClass := oneClass_of_endFault? complete.leftEnds
  rw [flags, Setting.alone, Flags.union_none] at oneClass
  have noFault := endFault?_eq_none below oneClass plain.conditions
  refine readsTo_nil_iff.mpr (finish_eq_ok_iff.mpr ⟨completed, complete.completing, ?_, rfl⟩)
  unfold Reading.endFault?
  rcases complete.between with item | comment
  · rw [item]
    exact noFault
  · rw [comment]
    exact noFault

/-- The flags are those that have been moved to the group, of which nothing is
left outside. -/
theorem flags_flagged (complete : IsComplete (.flagged flags verbose leftEnd) right completed) :
    leftEnd.flags = flags ∧ completed.assembly.flags = {} := by
  rcases complete.similar with ⟨_, _, _, _, leftFlags, rightFlags⟩
  have noFlags : completed.assembly.flags = {} := rightFlags nofun
  rw [noFlags] at leftFlags
  exact ⟨leftFlags.trans (Flags.none_union flags), noFlags⟩

/-- The group for the leading flags is closed where the expression ends, and
then the whole ends if nothing is wrong with what has been noted. -/
theorem readsTo_ending_iff (complete : IsComplete (.flagged flags verbose leftEnd) right completed) :
    right.ReadsTo flags.ending ended ↔
      completed.assembly.close.endFault? = none ∧ completed.assembly.close = ended := by
  rcases complete.similar.resemble (outer_of_endFault? complete.leftEnds) with ⟨_, _, below, skips⟩
  have inside : completed.assembly.outer ≠ [] := by
    rw [below]
    exact nofun
  exact Reading.readsTo_ending_iff complete.notNaming complete.completing complete.between
    complete.comments inside (skips.trans (congrArg Flags.verbose complete.flags_flagged.1))

theorem readsTo_ending (complete : IsComplete (.flagged flags verbose leftEnd) right completed)
    (plain : completed.assembly.IsPlain) :
    right.ReadsTo flags.ending completed.assembly.close ∧
      completed.assembly.SameNotes completed.assembly.close := by
  rcases complete.similar.resemble (outer_of_endFault? complete.leftEnds) with ⟨_, kind, below, _⟩
  have notes := completed.assembly.sameNotes_close fun group same => nomatch kind.symm.trans same
  have oneClass : (completed.assembly.close.flags.ascii &&
      completed.assembly.close.flags.unicode) = false := by
    rw [← notes.flags, complete.flags_flagged.2]
    rfl
  have noFault := endFault?_eq_none (Assembly.close_of_outer_eq_cons below).1 oneClass
    (notes.isPlain plain).conditions
  exact ⟨complete.readsTo_ending_iff.mpr ⟨noFault, rfl⟩, notes⟩

end IsComplete

/-- An expression without leading flags resembles what the scan makes of
it. -/
theorem resemble_of_scanned (leftReads : initial.ReadsTo text leftEnd)
    (rightReads : initial.ReadsTo output rightEnd) (plain : rightEnd.IsPlain)
    (legible : initial.isLegible verbose (Token.split text).1 = true)
    (scanned : withoutCapturesFrom? verbose .outside text = some output) :
    Expr.Resemble (Assembly.items leftEnd.frame) (Assembly.items rightEnd.frame) ∧
      leftEnd.flags = rightEnd.flags := by
  rw [isLegible_eq_passes] at legible
  rw [← List.append_nil text] at scanned
  rcases Guide.reachesEnd (.known (.alone verbose leftEnd) plain) rfl leftReads legible
    ⟨alike_alone verbose leftEnd, output, scanned, rightReads⟩ with ⟨_, left, right, last⟩
  rcases last.ends with ⟨completed, complete, rightEnds⟩
  rcases finish_eq_ok_iff.mp (readsTo_nil_iff.mp rightEnds) with ⟨_, rightCompleting, _, same⟩
  cases complete.completing.symm.trans rightCompleting
  have resemble := complete.similar.resemble (outer_of_endFault? complete.leftEnds)
  rcases complete.similar with ⟨_, _, _, _, flags, _⟩
  rw [same] at resemble flags
  exact ⟨resemble.1, flags.trans (Flags.union_none _)⟩

/-- An expression after its leading flags resembles what the scan makes of it
in a group that sets the flags. -/
theorem resemble_of_flagged {flags : Flags} {stop other : Nat}
    (leftReads : ReadsTo ⟨stop, .item, Assembly.initial.setFlags flags⟩ text leftEnd)
    (rightReads : ReadsTo ⟨other, .item, Assembly.initial.openGroup (.flagged ⟨flags, {}⟩) 0
      flags.verbose⟩ output rightEnd) (plain : rightEnd.IsPlain)
    (legible : isLegible verbose ⟨stop, .item, Assembly.initial.setFlags flags⟩
      (Token.split text).1 = true)
    (scanned : withoutCapturesFrom? verbose .outside (text ++ flags.ending) = some output) :
    leftEnd.flags = flags ∧ rightEnd.flags = {} ∧
      ∃ items, Expr.Resemble (Assembly.items leftEnd.frame) items ∧
        Assembly.items rightEnd.frame = [.flagged ⟨flags, {}⟩ (Expr.sequence items)] := by
  rw [isLegible_eq_passes] at legible
  rcases Guide.reachesEnd (.known (.flagged flags verbose leftEnd) plain) rfl leftReads legible
    ⟨alike_flagged flags verbose leftEnd stop other, output, scanned, rightReads⟩ with
    ⟨_, left, right, last⟩
  rcases last.ends with ⟨completed, complete, rightEnds⟩
  rcases complete.similar.resemble (outer_of_endFault? complete.leftEnds) with
    ⟨resemble, kind, below, _⟩
  rcases complete.flags_flagged with ⟨leftFlags, noFlags⟩
  rcases complete.readsTo_ending_iff.mp rightEnds with ⟨_, rfl⟩
  refine ⟨leftFlags, (Assembly.flags_close _).trans noFlags, Assembly.items completed.assembly.frame,
    resemble, ?_⟩
  rcases Assembly.close_of_outer_eq_cons below with ⟨_, frame⟩
  rw [frame, Assembly.closedPiece, kind]
  rfl

/-- An expression with leading flags resembles, but for the group with the
flags, what the scan makes of it after they have been moved there. -/
theorem resemble_of_leadingFlags {letters body : List Char} (split : splitFlags text = (letters, body))
    (begins : letters ≠ []) (leftReads : initial.ReadsTo text leftEnd)
    (rightReads : initial.ReadsTo output rightEnd) (plain : rightEnd.IsPlain)
    (legible : initial.isLegible verbose (Token.split text).1 = true)
    (scanned : withoutCapturesFrom? verbose .outside (groupLeadingFlags text) = some output) :
    leftEnd.flags = .ofLetters letters ∧ rightEnd.flags = {} ∧
      ∃ items, Expr.Resemble (Assembly.items leftEnd.frame) items ∧
        Assembly.items rightEnd.frame =
          [.flagged ⟨.ofLetters letters, {}⟩ (Expr.sequence items)] := by
  rw [scan_groupLeadingFlags split begins] at scanned
  rcases Option.map_eq_some_iff.mp scanned with ⟨further, scannedFurther, rfl⟩
  rcases rightReads.flagged split begins with ⟨other, innerReads⟩
  rcases leftReads.leadingFlags split with ⟨stop, bodyReads, bodyLegible⟩
  exact resemble_of_flagged bodyReads innerReads plain (bodyLegible verbose legible) scannedFurther

end Reading

/-! ## What is matched -/

/-- Flags that have been moved to a group are the flags of the whole
expression there. -/
theorem FlagChange.apply_complete {flags : Flags}
    (oneClass : (flags.ascii && flags.unicode) = false) :
    FlagChange.apply ⟨flags, {}⟩ (Flags.complete {}) = flags.complete := by
  rcases flags with ⟨ignoreCase, multiline, dotAll, verbose, ascii, unicode, unrepeated⟩
  cases ascii with
  | true =>
      have notUnicode : unicode = false := oneClass
      subst notUnicode
      simp [FlagChange.apply, Flags.complete, Flags.choosesClasses, Flags.union, Flags.without]
  | false =>
      cases unicode <;>
        simp [FlagChange.apply, Flags.complete, Flags.choosesClasses, Flags.union, Flags.without]

/-- What has been read on the right is what isolating leaves of what has been
read on the left: either with the same flags for the whole, or with these
flags on a group around it. -/
inductive Assembly.Isolates (left right : Assembly) : Prop where
  | alone (resemble : Expr.Resemble (items left.frame) (items right.frame))
      (flags : left.flags = right.flags)
  | flagged {inside : List Expr} (resemble : Expr.Resemble (items left.frame) inside)
      (grouped : items right.frame = [.flagged ⟨left.flags, {}⟩ (Expr.sequence inside)])
      (noFlags : right.flags = {})

namespace Assembly.Isolates

variable {left right : Assembly}

/-- Nothing gets into the expression that a finished one may not hold.  This
is what reading checks in the end. -/
theorem isSound (isolates : left.Isolates right)
    (sound : (Expr.sequence (items left.frame)).isSound = true) :
    (Expr.sequence (items right.frame)).isSound = true := by
  rw [Expr.isHereditary_isSound.sequence] at sound
  cases isolates with
  | alone resemble flags => exact (Expr.isHereditary_isSound.sequence _).trans (resemble.sound sound)
  | @flagged inside resemble grouped noFlags =>
      rw [grouped]
      exact (Expr.isHereditary_isSound.sequence inside).trans (resemble.sound sound)

/-- Nowhere are the classes made ASCII's that were not before.  The flags that
are moved to a group are those of the whole, where the classes are
Unicode's. -/
theorem keepsUnicode (isolates : left.Isolates right) (unicode : left.flags.complete.unicode = true)
    (keeps : (Expr.sequence (items left.frame)).keepsUnicode = true) :
    (Expr.sequence (items right.frame)).keepsUnicode = true := by
  rw [Expr.isHereditary_keepsUnicode.sequence] at keeps
  cases isolates with
  | alone resemble flags =>
      exact (Expr.isHereditary_keepsUnicode.sequence _).trans (resemble.unicode keeps)
  | @flagged inside resemble grouped noFlags =>
      have notAscii : left.flags.ascii = false := (Bool.not_eq_true' _).mp unicode
      have each := (Expr.isHereditary_keepsUnicode.sequence inside).trans (resemble.unicode keeps)
      have group : (Expr.flagged ⟨left.flags, {}⟩ (Expr.sequence inside)).keepsUnicode = true := by
        rw [Expr.keepsUnicode, notAscii, each]
        rfl
      rw [grouped]
      exact group

theorem equivalent (isolates : left.Isolates right)
    (oneClass : (left.flags.ascii && left.flags.unicode) = false) (text : Array Char)
    (separable : (Expr.sequence (items left.frame)).isSeparable left.flags.complete = true) :
    (Expr.ways text (Expr.sequence (items left.frame)) left.flags.complete).Equivalent
      (Expr.ways text (Expr.sequence (items right.frame)) right.flags.complete) := by
  have each := ((Expr.isSequential_isSeparable _).sequence _).symm.trans separable
  cases isolates with
  | alone resemble flags =>
      have equivalent := resemble.equivalent text _ each
      rw [flags] at equivalent ⊢
      exact equivalent
  | @flagged inside resemble grouped noFlags =>
      have equivalent := resemble.equivalent text _ each
      have moved : Expr.ways text (.flagged ⟨left.flags, {}⟩ (Expr.sequence inside))
            (Flags.complete {}) = Expr.ways text (Expr.sequence inside) left.flags.complete :=
        congrArg _ (FlagChange.apply_complete oneClass)
      rw [noFlags, grouped]
      exact moved.symm ▸ equivalent

end Assembly.Isolates

/-- What is read of an expression is isolated by what is read of its text
without captures, if the scan sees its comments where they are read. -/
theorem Reading.isolates_of_reads {text output : List Char} {leftEnd rightEnd : Assembly}
    {verbose : Bool} (leftReads : initial.ReadsTo text leftEnd)
    (rightReads : initial.ReadsTo output rightEnd) (plain : rightEnd.IsPlain)
    (legible : initial.isLegible verbose (Token.split text).1 = true)
    (scanned : withoutCapturesFrom? verbose .outside (groupLeadingFlags text) = some output) :
    leftEnd.Isolates rightEnd := by
  rcases split : splitFlags text with ⟨letters, body⟩
  cases letters with
  | nil =>
      rw [groupLeadingFlags_of_splitFlags split] at scanned
      rcases resemble_of_scanned leftReads rightReads plain legible scanned with ⟨resemble, flags⟩
      exact .alone resemble flags
  | cons letter others =>
      rcases resemble_of_leadingFlags split nofun leftReads rightReads plain legible scanned with
        ⟨leftFlags, rightFlags, items, resemble, grouped⟩
      rw [← leftFlags] at grouped
      exact .flagged resemble grouped rightFlags

/-- What is checked of the expressions that two texts are compiled to.  The
check is decidable, so that a run of it proves what it says. -/
theorem exists_compiled {first second : String} {Holds : Regex -> Regex -> Prop}
    [forall one other, Decidable (Holds one other)]
    (checked : (compile first).toOption.any (fun one =>
      (compile second).toOption.any fun other => decide (Holds one other)) = true) :
    ∃ one other, compile first = .ok one ∧ compile second = .ok other ∧ Holds one other := by
  obtain ⟨one, compiled, others⟩ := Except.exists_ok_of_any checked
  obtain ⟨other, recompiled, holds⟩ := Except.exists_ok_of_any others
  exact ⟨one, other, compiled, recompiled, of_decide_eq_true holds⟩

end Regex

open Regex

/-- What is isolated matches exactly what the expression matches, if the scan
for groups sees its comments where they are read and, in alternations that
hold a captured group, its code points may stand in sets. -/
theorem isSome_matchWhole?_isolate {name expression isolated : String} {original : Regex}
    (compiled : Regex.compile expression = .ok original)
    (done : isolate name expression = .ok isolated)
    (legible : Reading.initial.isLegible original.flags.verbose
      (Token.split expression.toList).1 = true)
    (separable : original.body.isSeparable original.flags = true) :
    ∃ regex, Regex.compile isolated = .ok regex ∧
      forall text : Array Char,
        (original.matchWhole? text).isSome = (regex.matchWhole? text).isSome := by
  rcases isolate_eq_ok done with ⟨same, regex, sameCompiled, rewriting, recompiled, capturesNot⟩
  cases compiled.symm.trans sameCompiled
  refine ⟨regex, recompiled, fun text => isSome_matchWhole?_congr ?_⟩
  rcases compile_eq_ok compiled with ⟨leftEnd, leftReads, rfl⟩
  rcases compile_eq_ok recompiled with ⟨rightEnd, rightReads, rfl⟩
  have plain : rightEnd.IsPlain := Reading.isPlain_of_groupCount rightReads.done capturesNot
  rcases Option.map_eq_some_iff.mp rewriting with ⟨output, scanned, rfl⟩
  rw [String.toList_ofList] at rightReads
  have isolates := Reading.isolates_of_reads leftReads rightReads plain legible scanned
  exact isolates.equivalent (Reading.oneClass_of_endFault? leftReads.endFault?) text separable

/-- A sign and a letter, with flags for all of it and a comment. -/
def signedExample : String := "(?ix)(?P<sign>[+-])? (a|b) # a or b"

theorem isSome_matchWhole?_isolate_signedExample :
    isolate "x" signedExample = .ok "(?ix:(?:[+-])? (?:a|b) # a or b\n)" ∧
      ∃ original regex, Regex.compile signedExample = .ok original ∧
        Regex.compile "(?ix:(?:[+-])? (?:a|b) # a or b\n)" = .ok regex ∧
        forall text : Array Char,
          (original.matchWhole? text).isSome = (regex.matchWhole? text).isSome := by
  have isolates : isolate "x" signedExample = .ok "(?ix:(?:[+-])? (?:a|b) # a or b\n)" := by
    decide +kernel
  have clauses : (Regex.compile signedExample).toOption.any (fun original =>
      Reading.initial.isLegible original.flags.verbose (Token.split signedExample.toList).1 &&
        original.body.isSeparable original.flags) = true := by
    decide +kernel
  obtain ⟨original, compiled, checked⟩ := Except.exists_ok_of_any clauses
  obtain ⟨legible, separable⟩ := Bool.and_eq_true_iff.mp checked
  obtain ⟨regex, recompiled, same⟩ := isSome_matchWhole?_isolate compiled isolates legible separable
  exact ⟨isolates, original, regex, compiled, recompiled, same⟩

/-- Both expressions can be compiled, and just one of them matches the
text. -/
def differOn (expression other text : String) : Bool :=
  match Regex.compile expression, Regex.compile other with
  | .ok first, .ok second =>
      (first.matchWhole? text.toList.toArray).isSome !=
        (second.matchWhole? text.toList.toArray).isSome
  | _, _ => false

/-- Without the conditions the meaning may change: where a comment holds an
escaped parenthesis, or an escaped end of a line, where comments are skipped
only in a group or not in a group, and where a code point beyond the basic
plane is put in a set. -/
theorem not_isSome_matchWhole?_isolate :
    (isolate "x" "(?#\\)(?P<)a>b|(?:c)" = .ok "(?#\\)(?:b|(?:c)" ∧
      differOn "(?#\\)(?P<)a>b|(?:c)" "(?#\\)(?:b|(?:c)" "c" = true) ∧
    (isolate "x" "(?x)#\\\n(?P<\na>b" = .ok "(?x:#\\\n(?:b\n)" ∧
      differOn "(?x)#\\\n(?P<\na>b" "(?x:#\\\n(?:b\n)" "a>b" = true) ∧
    (isolate "x" "(?x:#(?P<\nb>c\n)" = .ok "(?x:#(?:c\n)" ∧
      differOn "(?x:#(?P<\nb>c\n)" "(?x:#(?:c\n)" "b>c" = true) ∧
    (isolate "x" "(?x)(?-x:#[)\n(?P<a>]b)" = .ok "(?x:(?-x:#[)\n(?:]b)\n)" ∧
      differOn "(?x)(?-x:#[)\n(?P<a>]b)" "(?x:(?-x:#[)\n(?:]b)\n)" "#Pb" = true) ∧
    (isolate "x" "(?i)(𐐀)|(b)" = .ok "(?i:(?:𐐀)|(?:b))" ∧
      differOn "(?i)(𐐀)|(b)" "(?i:(?:𐐀)|(?:b))" "𐐀" = true) := by
  decide +kernel

end Stencil

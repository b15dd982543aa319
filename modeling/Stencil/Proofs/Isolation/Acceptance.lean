import Stencil.Proofs.Isolation.Rewriting

namespace Stencil
namespace Regex

/-!
What can be isolated.  An expression that can be compiled, that has no
comments, refers to no groups and sets flags for the whole only in flag groups
at its very start, is isolated: its text without captures can be read to its
end because the expression can.  So its meaning is kept as well, and not only
for whole texts: both expressions find the same from every place.  Only a set
that comes of alternatives without their groups may find less, if it lists
code points beyond the basic plane.

The main statement is `exists_isolate_of_flagsLead`.
-/

open Comparison (uncaptured isCongruent_uncaptured)
open Isolation
  (Region withoutCapturesFrom? splitFlags groupLeadingFlags isLeadingFlag flagGroup?)

namespace Reading

variable {text output body : List Char} {leftEnd rightEnd : Assembly} {verbose : Bool}
  {left right begun later : Reading} {total outcome : Option (List Char)} {region : Region}

/-! ## The text without captures is read -/

/-- The right-hand side has been reached by reading, and on the way nothing
has been noted about flags or groups. -/
def HasReached (right : Reading) (read : Except Fault Reading) : Prop :=
  read = .ok right ∧ Assembly.initial.SameNotes right.assembly

/-- What the scan gives is read to its end if the rest of it is read from
where the right-hand side is. -/
theorem Led.reads {back : List Char} (led : Led begun total (HasReached right) (some back))
    (backReads : right.ReadsTo back rightEnd) :
    ∃ output, total = some output ∧ begun.ReadsTo output rightEnd := by
  rcases led with ⟨front, same, whole, taken, _⟩
  exact ⟨front ++ back, same, (readsTo_append_iff whole).mpr ⟨right, taken, backReads⟩⟩

theorem Led.further {more : List Char}
    (led : Led begun total (HasReached right) (outcome.map (more ++ ·)))
    (whole : (Token.split more).2 = false) (taken : right.takeAll (Token.split more).1 = .ok later)
    (notes : right.assembly.SameNotes later.assembly) :
    Led begun total (HasReached later) outcome := by
  rcases led with ⟨front, same, frontWhole, frontTaken, frontNotes⟩
  refine led_append same frontWhole whole ⟨?_, frontNotes.trans notes⟩
  rw [frontTaken]
  exact taken

/-- What the scan gives is read as long as the expression sets no flags and
asks for no captures. -/
def Guide.followed (setting : Setting) (capturesNot : forall group, setting.rightKind ≠ .capture group)
    (dependsNot : forall group, setting.rightKind ≠ .conditional group)
    (positional : setting.leftEnd.IsPositional) (begun : Reading) (total : Option (List Char)) :
    Guide setting where
  test settled token := settled.showsComments setting.verbose token && !settled.setsFlags token
  shows tested := (Bool.and_eq_true_iff.mp tested).1
  leads left right outcome :=
    Alike setting.comparison left right ∧ Led begun total (HasReached right) outcome
  takes := by
    intro left settled leftLater right token ahead outcome proper settling tested done reads
      capturing _ both
    have flagsNot : settled.setsFlags token = false :=
      (Bool.not_eq_true' _).mp (Bool.and_eq_true_iff.mp tested).2
    rcases both with ⟨alike, led⟩
    have ⟨_, _, _, _, notes⟩ := led
    rcases exists_take (isCongruent_uncaptured _ _ _)
      (fun similar => similar.faces capturesNot dependsNot) alike
      (notes.isPlain Assembly.isPlain_initial) settling done (reads.becomes.isPositional positional)
      capturing flagsNot with ⟨rightLater, rightTaken, laterNotes⟩
    have tokens := Token.split_single proper
    have leftTaken := take_eq_ok_iff.mpr ⟨settled, settling, done⟩
    refine ⟨rightLater, alike_take (isCongruent_uncaptured _ _ _) alike leftTaken rightTaken
      ((notes.trans laterNotes).isPlain Assembly.isPlain_initial),
      led.further (congrArg Prod.snd tokens) ?_ laterNotes⟩
    rw [tokens, takeAll_singleton]
    exact rightTaken
  opens := by
    rintro position start stop assembly opened right name outcome captured ⟨alike, led⟩
    rcases alike.opens captured stop (right.position + 1 + 1) with ⟨_, other, _, rfl, later⟩
    exact ⟨_, later, led.further rfl (takeAll_plainGroup _ _ _) (Assembly.sameNotes_openGroup _ _ _ _)⟩
  depends := by
    intro _ _ _ _ _ _ _ reads _
    exact absurd positional (refers_of_condition reads.done).positional

theorem Together.exists_isComplete {setting : Setting}
    {capturesNot : forall group, setting.rightKind ≠ .capture group}
    {dependsNot : forall group, setting.rightKind ≠ .conditional group}
    {positional : setting.leftEnd.IsPositional}
    (together : Together (.followed setting capturesNot dependsNot positional begun total) [] region
      left right) :
    ∃ completed, IsComplete setting right completed ∧
      Assembly.initial.SameNotes completed.assembly ∧
      Led begun total (HasReached right) (some setting.back) := by
  rcases together.exists_complete with ⟨leftDone, leftCompleting, _, same, _⟩
  rcases together.scansBack with ⟨alike, led⟩
  have ⟨_, _, _, _, notes⟩ := led
  have capturing := capturesNot_of_isScanned together.inStep.scanned none
  have donePositional : leftDone.assembly.IsPositional := same ▸ positional
  rcases (follows_complete (.forgone forgoes_isPositional) alike.mode
    (opensNone_of_isPositional capturing)).exists_ok leftCompleting donePositional with
    ⟨completed, completing, laterNotes⟩
  have doneNotes := notes.trans laterNotes
  exact ⟨completed, together.isComplete alike completing
    (doneNotes.isPlain Assembly.isPlain_initial), doneNotes, led⟩

/-- What the scan makes of an expression without leading flags can be read.
The expression must ask for no captures, its comments must be where the scan
sees them, and it must set no flags for the whole. -/
theorem exists_reads_alone (positional : leftEnd.IsPositional)
    (leftReads : initial.ReadsTo text leftEnd) (passed : initial.passes (fun settled token =>
      settled.showsComments verbose token && !settled.setsFlags token) (Token.split text).1 = true) :
    ∃ output rightEnd, withoutCapturesFrom? verbose .outside text = some output ∧
      initial.ReadsTo output rightEnd ∧ Assembly.initial.SameNotes rightEnd := by
  let guide : Guide (.alone verbose leftEnd) :=
    .followed _ nofun nofun positional initial
      (withoutCapturesFrom? verbose .outside (text ++ []))
  rcases guide.reachesEnd rfl leftReads passed
    ⟨alike_alone verbose leftEnd, led_refl ⟨rfl, .refl _⟩⟩ with ⟨_, left, right, last⟩
  rcases last.exists_isComplete with ⟨completed, complete, notes, led⟩
  rcases led.reads (complete.readsTo_nil (notes.isPlain Assembly.isPlain_initial)) with
    ⟨output, given, reads⟩
  rw [List.append_nil] at given
  exact ⟨output, completed.assembly, given, reads, notes⟩

/-- What the scan makes of an expression after its leading flags can be read
in a group that sets them. -/
theorem exists_reads_flagged (other : Nat) {flags : Flags} {stop : Nat}
    (positional : leftEnd.IsPositional)
    (leftReads : ReadsTo ⟨stop, .item, Assembly.initial.setFlags flags⟩ body leftEnd)
    (passed : passes (fun settled token =>
      settled.showsComments verbose token && !settled.setsFlags token)
        ⟨stop, .item, Assembly.initial.setFlags flags⟩ (Token.split body).1 = true) :
    ∃ output rightEnd,
      withoutCapturesFrom? verbose .outside (body ++ flags.ending) = some output ∧
      ReadsTo ⟨other, .item, Assembly.initial.openGroup (.flagged ⟨flags, {}⟩) 0 flags.verbose⟩ output
        rightEnd ∧ Assembly.initial.SameNotes rightEnd ∧ leftEnd.flags = flags := by
  let begun : Reading :=
    ⟨other, .item, Assembly.initial.openGroup (.flagged ⟨flags, {}⟩) 0 flags.verbose⟩
  let guide : Guide (.flagged flags verbose leftEnd) :=
    .followed _ nofun nofun positional begun
      (withoutCapturesFrom? verbose .outside (body ++ flags.ending))
  rcases guide.reachesEnd rfl leftReads passed ⟨alike_flagged flags verbose leftEnd stop other,
    led_refl ⟨rfl, Assembly.sameNotes_openGroup _ _ _ _⟩⟩ with ⟨_, left, right, last⟩
  rcases last.exists_isComplete with ⟨completed, complete, notes, led⟩
  rcases complete.readsTo_ending (notes.isPlain Assembly.isPlain_initial) with ⟨ends, closedNotes⟩
  rcases led.reads ends with ⟨output, given, reads⟩
  exact ⟨output, _, given, reads, notes.trans closedNotes, complete.flags_flagged.1⟩

end Reading

/-! ## Leading flags -/

/-- The letters of the flags that may be set both for a whole expression and
for a group. -/
def isGlobalFlag (letter : Char) : Bool :=
  ['a', 'i', 'm', 's', 'u', 'x'].contains letter

theorem ofLetter_of_isGlobalFlag {letter : Char} (global : isGlobalFlag letter = true) :
    isLeadingFlag letter = true ∧ Flags.ofLetter? letter = some (.ofLetter letter) ∧
      (Flags.ofLetter letter).unrepeated = false := by
  have member : letter ∈ ['a', 'i', 'm', 's', 'u', 'x'] := List.contains_iff_mem.mp global
  simp only [List.mem_cons, List.not_mem_nil, or_false] at member
  rcases member with rfl | rfl | rfl | rfl | rfl | rfl <;> exact ⟨rfl, rfl, rfl⟩

theorem all_isLeadingFlag {letters : List Char} (global : letters.all isGlobalFlag = true) :
    letters.all isLeadingFlag = true := by
  rw [List.all_eq_true] at global ⊢
  exact fun letter member => (ofLetter_of_isGlobalFlag (global letter member)).1

theorem Flags.unrepeated_ofLetters {letters : List Char} (global : letters.all isGlobalFlag = true) :
    (Flags.ofLetters letters).unrepeated = false := by
  rw [ofLetters_eq_any unrepeated rfl fun _ _ => rfl, List.any_eq_false]
  intro letter member
  rw [(ofLetter_of_isGlobalFlag (List.all_eq_true.mp global letter member)).2.2]
  exact Bool.false_ne_true

/-- Flags choose one kind of character classes at most if they do together
with more flags. -/
theorem Flags.oneClass_of_union {flags more : Flags}
    (oneClass : ((flags.union more).ascii && (flags.union more).unicode) = false) :
    (flags.ascii && flags.unicode) = false := by
  simp only [union] at oneClass
  cases ascii : flags.ascii with
  | false => rfl
  | true =>
      rw [ascii, Bool.true_or, Bool.true_and, Bool.or_eq_false_iff] at oneClass
      rw [Bool.true_and, oneClass.1]

theorem Opening.turnOn_of_oneClass {added : Flags} {letter : Char}
    (global : isGlobalFlag letter = true)
    (oneClass : ((added.union (.ofLetter letter)).ascii &&
      (added.union (.ofLetter letter)).unicode) = false) (stop : Nat) :
    turnOn added letter stop = .ok (added.union (.ofLetter letter)) := by
  unfold turnOn
  rw [(ofLetter_of_isGlobalFlag global).2.1]
  dsimp only
  rw [Bool.and_assoc, oneClass, Bool.and_false, if_neg Bool.false_ne_true]

namespace Reading

variable {letters : List Char}

theorem take_turned (position start : Nat) (assembly : Assembly) {opening : Opening} {added : Flags}
    {letter : Char} (goesOn : opening.goesOn ⟨false, letter⟩ = true)
    (turnsOn : forall stop, opening.take ⟨false, letter⟩ stop =
      (Opening.turnOn added letter stop).map fun flags => .inl (.flagsOn flags))
    (turned : forall stop, Opening.turnOn added letter stop = .ok (added.union (.ofLetter letter))) :
    take ⟨position, .opening start opening, assembly⟩ ⟨false, letter⟩ =
      .ok ⟨position + 1, .opening start (.flagsOn (added.union (.ofLetter letter))), assembly⟩ := by
  apply take_opening_further goesOn
  rw [turnsOn, turned]
  rfl

/-- Letters of flags can be read together if they choose one kind of character
classes at most. -/
theorem exists_takeAll_flagsOn (position start : Nat) (assembly : Assembly) {added : Flags}
    (global : letters.all isGlobalFlag = true)
    (oneClass : ((added.union (.ofLetters letters)).ascii &&
      (added.union (.ofLetters letters)).unicode) = false) :
    ∃ stop, takeAll ⟨position, .opening start (.flagsOn added), assembly⟩ (Token.plain letters) =
      .ok ⟨stop, .opening start (.flagsOn (added.union (.ofLetters letters))), assembly⟩ := by
  induction letters generalizing position added with
  | nil =>
      rw [Flags.ofLetters, List.foldr_nil, Flags.union_none]
      exact ⟨position, rfl⟩
  | cons letter rest inductiveHypothesis =>
      rw [List.all_cons, Bool.and_eq_true] at global
      rw [Flags.ofLetters, List.foldr_cons, ← Flags.union_assoc] at oneClass ⊢
      have leading := (ofLetter_of_isGlobalFlag global.1).1
      have turned := Opening.turnOn_of_oneClass global.1 (Flags.oneClass_of_union oneClass)
      have taken := take_turned position start assembly rfl
        (fun stop => (Opening.take_leadingFlag leading added stop).2) turned
      rcases inductiveHypothesis _ global.2 oneClass with ⟨stop, others⟩
      exact ⟨stop, takeAll_cons_eq_ok_iff.mpr ⟨_, taken, others⟩⟩

theorem take_colon (position start : Nat) (assembly : Assembly) {flags : Flags}
    (unrepeated : flags.unrepeated = false) :
    take ⟨position, .opening start (.flagsOn flags), assembly⟩ ⟨false, ':'⟩ =
      .ok ⟨position + 1, .item, assembly.openGroup (.flagged ⟨flags, {}⟩) start
        (assembly.frame.verbose || flags.verbose)⟩ := by
  have colon : Token.is ⟨false, ':'⟩ ':' = true := rfl
  have notClosing : Token.is ⟨false, ':'⟩ ')' = false := rfl
  have notRemoved : ((assembly.frame.verbose || flags.verbose) && !({} : Flags).verbose) =
      (assembly.frame.verbose || flags.verbose) := Bool.and_true _
  rw [take_opening rfl, ← notRemoved]
  simp only [takeSettled, Opening.take, Opening.takeFlagOn, colon, notClosing, unrepeated,
    Bool.true_or, Bool.false_eq_true, if_false, if_true]
  rfl

theorem exists_takeAll_flagged (position : Nat) (assembly : Assembly) (nonempty : letters ≠ [])
    (global : letters.all isGlobalFlag = true)
    (oneClass : ((Flags.ofLetters letters).ascii && (Flags.ofLetters letters).unicode) = false) :
    ∃ stop, takeAll ⟨position, .item, assembly⟩ (Token.plain ('(' :: '?' :: letters ++ [':'])) =
      .ok ⟨stop, .item, assembly.openGroup (.flagged ⟨.ofLetters letters, {}⟩) position
        (assembly.frame.verbose || (Flags.ofLetters letters).verbose)⟩ := by
  cases letters with
  | nil => exact absurd rfl nonempty
  | cons letter rest =>
      have unrepeated := Flags.unrepeated_ofLetters global
      rw [List.all_cons, Bool.and_eq_true] at global
      have all : (({} : Flags).union (.ofLetter letter)).union (.ofLetters rest) =
          .ofLetters (letter :: rest) := congrArg (Flags.union · _) (Flags.none_union _)
      rw [← all] at oneClass unrepeated ⊢
      have leading := (ofLetter_of_isGlobalFlag global.1).1
      have turned := Opening.turnOn_of_oneClass global.1 (Flags.oneClass_of_union oneClass)
      have first := take_turned (position + 1 + 1) position assembly rfl
        (fun stop => (Opening.take_leadingFlag leading {} stop).1) turned
      rcases exists_takeAll_flagsOn (position + 1 + 1 + 1) position assembly global.2 oneClass with
        ⟨stop, others⟩
      have tokens : Token.plain ('(' :: '?' :: letter :: rest ++ [':']) =
          ⟨false, '('⟩ :: ⟨false, '?'⟩ :: ⟨false, letter⟩ :: (Token.plain rest ++ [⟨false, ':'⟩]) := by
        simp only [Token.plain, List.map_cons, List.map_append, List.map_nil, List.cons_append]
      have question : take ⟨position + 1, .opening position .parenthesis, assembly⟩ ⟨false, '?'⟩ =
          .ok ⟨position + 1 + 1, .opening position .question, assembly⟩ :=
        take_opening_further rfl rfl
      have opens : takeAll _ [⟨false, ':'⟩] = _ :=
        takeAll_cons_eq_ok_iff.mpr ⟨_, take_colon stop position assembly unrepeated, rfl⟩
      have lettered := takeAll_cons_eq_ok_iff.mpr
        ⟨_, first, takeAll_append_eq_ok_iff.mpr ⟨_, others, opens⟩⟩
      rw [tokens]
      exact ⟨_, takeAll_cons_eq_ok_iff.mpr ⟨_, take_parenthesis position assembly,
        takeAll_cons_eq_ok_iff.mpr ⟨_, question, lettered⟩⟩⟩

/-! ## Flags nowhere else -/

/-- Whether the text that is ahead sets no flags for the whole expression.
Flags of groups do not count. -/
def setsFlagsNowhere (reading : Reading) (text : List Char) : Bool :=
  reading.passes (fun settled token => !settled.setsFlags token) (Token.split text).1

/-- The text begins with groups that set flags for the whole, and sets such
flags nowhere else. -/
def FlagsLead (text : List Char) : Prop :=
  ∃ (groups : List (List Char)) (body : List Char), text = groups.flatMap flagGroup ++ body ∧
    (forall group, group ∈ groups -> group ≠ [] ∧ group.all isGlobalFlag = true) ∧
    (initial.takeAll (Token.split (groups.flatMap flagGroup)).1).toOption.any
      (fun begun => begun.setsFlagsNowhere body) = true

/-- Where no flags are set the text does not begin with a flag group: what
looks like one would be read as one. -/
theorem flagGroup?_eq_none {position : Nat} {assembly : Assembly} {text : List Char}
    {ended : Assembly} (reads : ReadsTo ⟨position, .item, assembly⟩ text ended)
    (nowhere : setsFlagsNowhere ⟨position, .item, assembly⟩ text = true) :
    flagGroup? text = none := by
  cases group : flagGroup? text with
  | none => rfl
  | some parts =>
      rcases parts with ⟨letters, after⟩
      rcases flagGroup?_eq_some group with ⟨nonempty, leading, rfl⟩
      have noBackslash : '\\' ∉ '(' :: '?' :: letters := by
        rw [List.mem_cons, List.mem_cons, not_or, not_or]
        refine ⟨by decide, by decide, fun member => ?_⟩
        exact absurd (List.all_eq_true.mp leading _ member) (by decide)
      have tokens := Token.split_plain noBackslash
      have whole : (Token.split ('(' :: '?' :: letters)).2 = false := congrArg Prod.snd tokens
      have text : '(' :: '?' :: (letters ++ ')' :: after) =
          ('(' :: '?' :: letters) ++ ')' :: after := rfl
      rw [text] at reads
      rcases (readsTo_append_iff whole).mp reads with ⟨later, done, _⟩
      unfold setsFlagsNowhere at nowhere
      rw [text, Token.split_append whole] at nowhere
      have passed := passes_of_append nowhere done
      rw [tokens] at done
      rcases takeAll_flags nonempty (all_isFlagLetter leading) done with ⟨stop, rfl⟩
      rw [Token.split_cons_of_ne (by decide)] at passed
      cases passed

/-- The flag groups of the run that a text begins with are its leading
flags. -/
theorem splitFlags_flagGroups {groups : List (List Char)} {body : List Char}
    (leading : forall group, group ∈ groups -> group ≠ [] ∧ group.all isLeadingFlag = true)
    (noMore : flagGroup? body = none) :
    splitFlags (groups.flatMap flagGroup ++ body) = (groups.flatten, body) := by
  induction groups with
  | nil =>
      rw [List.flatMap_nil, List.nil_append, splitFlags]
      split
      · rfl
      · rename_i another
        cases noMore.symm.trans another
  | cons first others inductiveHypothesis =>
      rcases leading first List.mem_cons_self with ⟨nonempty, all⟩
      have rest := fun group member => leading group (List.mem_cons_of_mem _ member)
      have group : flagGroup? ((first :: others).flatMap flagGroup ++ body) =
          some (first, others.flatMap flagGroup ++ body) := by
        rw [List.flatMap_cons, List.append_assoc]
        exact flagGroup?_flagGroup _ nonempty all
      rw [splitFlags]
      split
      · rename_i missing
        cases group.symm.trans missing
      · rename_i letters after found
        cases group.symm.trans found
        rw [inductiveHypothesis rest]
        rfl

end Reading

open Reading (FlagsLead)

/-- A text without a `#` holds no comments, so the scan cannot miss any,
whatever it takes for verbose. -/
theorem Reading.isLegible_of_no_hash {verbose : Bool} {reading : Reading} {tokens : List Token}
    (outside : reading.mode.isComment = false)
    (noHash : forall token, token ∈ tokens -> token.is '#' = false) :
    reading.isLegible verbose tokens = true := by
  induction tokens generalizing reading with
  | nil => rfl
  | cons token rest inductiveHypothesis =>
      have notHash := noHash token List.mem_cons_self
      unfold isLegible
      split
      · rfl
      · rename_i settled settling
        have settledOutside := isComment_complete outside (complete_of_settle settling)
        have shows : settled.showsComments verbose token = true := by
          unfold showsComments
          cases mode : settled.mode with
          | item => simp only [notHash, Bool.not_false, Bool.true_or]
          | lineComment =>
              rw [mode] at settledOutside
              cases settledOutside
          | comment start =>
              rw [mode] at settledOutside
              cases settledOutside
          | _ => rfl
        rw [shows, Bool.true_and]
        split
        · rfl
        · rename_i later taken
          exact inductiveHypothesis (isComment_takeSettled settledOutside notHash taken)
            fun other member => noHash other (List.mem_cons_of_mem _ member)

theorem Token.is_of_not_mem {text : List Char} {character : Char} (absent : character ∉ text)
    {token : Token} (member : token ∈ (Token.split text).1) : token.is character = false := by
  rw [Bool.eq_false_iff]
  intro is
  apply absent
  rw [← flatMap_characters_split text, List.mem_append, List.mem_flatMap]
  refine .inl ⟨token, member, ?_⟩
  rw [eq_of_is is]
  exact List.mem_cons_self

theorem Flags.all_flatten_isGlobalFlag {groups : List (List Char)}
    (global : forall group, group ∈ groups -> group ≠ [] ∧ group.all isGlobalFlag = true) :
    groups.flatten.eraseDups.all isGlobalFlag = true := by
  rw [List.all_eq_true]
  intro letter member
  rcases List.mem_flatten.mp (List.mem_eraseDups.mp member) with ⟨group, among, inside⟩
  exact List.all_eq_true.mp (global group among).2 letter inside

/-- If an expression without comments can be read, asks for no captures and
sets flags only in front, then its text without captures can be read.  That
its flags can stand together is known from its end, where both kinds of
character classes are refused. -/
theorem Reading.exists_reads {text : List Char} {leftEnd : Assembly} (verbose : Bool)
    (leftReads : initial.ReadsTo text leftEnd) (positional : leftEnd.IsPositional)
    (noHash : '#' ∉ text) (lead : FlagsLead text) :
    ∃ output rightEnd, withoutCapturesFrom? verbose .outside (groupLeadingFlags text) = some output ∧
      initial.ReadsTo output rightEnd ∧ Assembly.initial.SameNotes rightEnd := by
  rcases lead with ⟨groups, body, rfl, global, nowhere⟩
  have leading : forall group, group ∈ groups -> group ≠ [] ∧ group.all isLeadingFlag = true :=
    fun group member => ⟨(global group member).1, all_isLeadingFlag (global group member).2⟩
  have tokens := split_flagGroups leading
  rcases (readsTo_append_iff (congrArg Prod.snd tokens)).mp leftReads with ⟨begun, done, bodyReads⟩
  rw [done] at nowhere
  have begunSets : begun.setsFlagsNowhere body = true := nowhere
  have taken := done
  rw [tokens] at taken
  rcases takeAll_flagGroups rfl leading taken with ⟨stop, begins⟩
  have outside : begun.mode.isComment = false := by
    rw [begins]
    rfl
  have legible : begun.isLegible verbose (Token.split body).1 = true :=
    isLegible_of_no_hash outside fun token member =>
      Token.is_of_not_mem (fun inside => noHash (List.mem_append_right _ inside)) member
  rw [isLegible_eq_passes] at legible
  have passed := passes_and legible begunSets
  have noMore : flagGroup? body = none := by
    rw [begins] at bodyReads begunSets
    exact flagGroup?_eq_none bodyReads begunSets
  have split := splitFlags_flagGroups leading noMore
  cases groups with
  | nil =>
      cases done
      rw [groupLeadingFlags_of_splitFlags split]
      exact exists_reads_alone positional leftReads passed
  | cons first others =>
      have nonempty : (first :: others).flatten ≠ [] := by
        rw [List.flatten_cons]
        exact List.append_ne_nil_of_left_ne_nil (global first List.mem_cons_self).1 _
      rw [begins] at bodyReads passed
      have someErased := eraseDups_ne_nil nonempty
      have globalErased := Flags.all_flatten_isGlobalFlag global
      have written := split_flagged (all_isLeadingFlag globalErased)
      have oneClass := oneClass_of_endFault? leftReads.endFault?
      rcases exists_reads_flagged 0 positional bodyReads passed with ⟨_, _, _, _, _, flags⟩
      rw [flags, ← Flags.ofLetters_eraseDups] at oneClass
      rcases exists_takeAll_flagged 0 Assembly.initial someErased globalErased oneClass with
        ⟨other, opened⟩
      rw [Flags.ofLetters_eraseDups] at opened
      rcases exists_reads_flagged other positional bodyReads passed with
        ⟨output, rightEnd, scanned, reads, notes, _⟩
      rw [scan_groupLeadingFlags split nonempty, scanned]
      refine ⟨_, rightEnd, rfl, ?_, notes⟩
      apply (readsTo_append_iff (congrArg Prod.snd written)).mpr
      rw [written]
      exact ⟨_, opened, reads⟩

end Regex

open Regex

/-- What can be rewritten to an expression without captures is isolated so.
Reading it twice is all that isolating adds. -/
theorem isolate_of_rewrite? {expression isolated : String} {original regex : Regex} (name : String)
    (compiled : Regex.compile expression = .ok original)
    (rewriting : Isolation.rewrite? original.flags.verbose expression = some isolated)
    (recompiled : Regex.compile isolated = .ok regex) (capturesNot : regex.groups = 0) :
    isolate name expression = .ok isolated := by
  unfold isolate
  rw [compiled]
  simp only [Except.mapError_ok, bind, Except.bind]
  rw [rewriting]
  simp only [pure, Except.pure]
  rw [recompiled]
  exact if_pos capturesNot

/-- An expression that can be compiled, without `#` and references to groups,
whose flags stand in front, is isolated.  What comes of it captures nothing
and sets no flags for the whole, and it is equivalent if groups may be taken
out of the expression.  The classes are Unicode's in all of it if they are in
all of the expression. -/
theorem exists_equivalent_of_flagsLead {expression : String} {original : Regex} (name : String)
    (compiled : Regex.compile expression = .ok original) (noHash : '#' ∉ expression.toList)
    (positional : original.body.isPositional = true)
    (lead : Reading.FlagsLead expression.toList) :
    ∃ isolated regex, isolate name expression = .ok isolated ∧
      Regex.compile isolated = .ok regex ∧ regex.groups = 0 ∧ regex.flags = { unicode := true } ∧
      IsFlagless isolated ∧
      (original.flags.unicode = true -> original.body.keepsUnicode = true ->
        regex.body.keepsUnicode = true) ∧
      (original.body.isSeparable original.flags = true -> forall text : Array Char,
        (Expr.ways text original.body original.flags).Equivalent
          (Expr.ways text regex.body regex.flags)) := by
  rcases compile_eq_ok_iff.mp compiled with ⟨leftEnd, leftReads, noProblem, same⟩
  have body : original.body = Expr.sequence (Assembly.items leftEnd.frame) :=
    congrArg Regex.body same
  have flags : original.flags = leftEnd.flags.complete := congrArg Regex.flags same
  rw [body] at positional
  have noReferences :=
    Assembly.isPositional_of_endFault? leftReads.becomes leftReads.endFault? positional
  rcases Reading.exists_reads original.flags.verbose leftReads noReferences noHash lead with
    ⟨output, rightEnd, scanned, rightReads, notes⟩
  have plain : rightEnd.IsPlain := notes.isPlain ⟨rfl, rfl, rfl, rfl⟩
  have legible : Reading.initial.isLegible original.flags.verbose
      (Token.split expression.toList).1 = true :=
    Reading.isLegible_of_no_hash rfl fun token member => Token.is_of_not_mem noHash member
  have isolates := Reading.isolates_of_reads leftReads rightReads plain legible scanned
  have sound := isolates.isSound (Expr.isSound_of_problem? noProblem)
  have noFlags : rightEnd.flags = {} := notes.flags.symm
  have reread : Reading.initial.ReadsTo (String.ofList output).toList rightEnd := by
    rw [String.toList_ofList]
    exact rightReads
  have recompiled : Regex.compile (String.ofList output) = .ok ⟨String.ofList output,
      rightEnd.flags.complete, rightEnd.groupCount, rightEnd.names,
      Expr.sequence (Assembly.items rightEnd.frame)⟩ := by
    refine compile_eq_ok_iff.mpr ⟨rightEnd, reread, ?_, rfl⟩
    rw [noFlags]
    exact Option.isNone_iff_eq_none.mp sound
  have rewriting : Isolation.rewrite? original.flags.verbose expression =
      some (String.ofList output) :=
    congrArg (Option.map String.ofList) scanned
  refine ⟨String.ofList output, _, isolate_of_rewrite? name compiled rewriting recompiled
    plain.groupCount, recompiled, plain.groupCount, congrArg Flags.complete noFlags,
    (isFlagless_iff reread).mpr noFlags, ?_, ?_⟩ <;> rw [body, flags]
  · exact isolates.keepsUnicode
  · exact fun separable text =>
      isolates.equivalent (Reading.oneClass_of_endFault? leftReads.endFault?) text separable

/-- An expression that can be compiled, without `#` and references to groups,
whose flags stand in front, is isolated.  What comes of it captures nothing,
sets no flags for the whole and matches at the same places, if groups may be
taken out of the expression.  A search finds it at the same places, too,
unless it passes over different ones; it does not if the classes are Unicode's
in all of the expression. -/
theorem exists_isolate_of_flagsLead {expression : String} {original : Regex} (name : String)
    (compiled : Regex.compile expression = .ok original)
    (noHash : '#' ∉ expression.toList)
    (positional : original.body.isPositional = true)
    (lead : Reading.FlagsLead expression.toList)
    (separable : original.body.isSeparable original.flags = true) :
    ∃ isolated regex, isolate name expression = .ok isolated ∧
      Regex.compile isolated = .ok regex ∧ regex.groups = 0 ∧ regex.flags = { unicode := true } ∧
      (Reading.read isolated.toList).map Assembly.flags = .ok {} ∧
      (original.flags.unicode = true -> original.body.keepsUnicode = true ->
        original.PassesAlike regex) ∧
      forall (text : Array Char) (start : Nat),
        (forall accepts, (original.matchAt? text start accepts).map Match.span =
          (regex.matchAt? text start accepts).map Match.span) ∧
        (original.PassesAlike regex -> forall nonEmpty,
          (original.search? text start nonEmpty).map Match.span =
            (regex.search? text start nonEmpty).map Match.span) := by
  rcases exists_equivalent_of_flagsLead name compiled noHash positional lead with
    ⟨isolated, regex, isolates, recompiled, groups, flags, flagless, keeps, equivalent⟩
  refine ⟨isolated, regex, isolates, recompiled, groups, flags, flagless, ?_, fun text start => ?_⟩
  · intro unicode keepsUnicode
    have candid : regex.IsCandid :=
      isCandid_of_keepsUnicode (congrArg Flags.unicode flags) (keeps unicode keepsUnicode)
    exact (isCandid_of_keepsUnicode unicode keepsUnicode).passesAlike candid
  · have same := equivalent separable text
    exact ⟨span_matchAt?_congr same start, fun alike => span_search?_congr same alike start⟩

/-- Flags in two groups, a letter beyond the basic plane outside of all
alternatives, a named group in one that is repeated lazily, brackets that
begin a class, a look-behind around a group, flags that are taken back and
possessive repetition. -/
def nestedExample : String :=
  "(?im)(?s)𐐀((?P<sign>[](])|b)*?(?<![^](]|(a))(?-i:c)(?:e|(?>(d)++))"

def isolatedNestedExample : String :=
  "(?ims:𐐀(?:(?:[](])|b)*?(?<![^](]|(?:a))(?-i:c)(?:e|(?>(?:d)++)))"

theorem exists_isolate_of_flagsLead_nestedExample :
    ∃ original regex, Regex.compile nestedExample = .ok original ∧
      isolate "x" nestedExample = .ok isolatedNestedExample ∧
      Regex.compile isolatedNestedExample = .ok regex ∧
      regex.groups = 0 ∧ regex.flags = { unicode := true } ∧
      (Reading.read isolatedNestedExample.toList).map Assembly.flags = .ok {} ∧
      forall (text : Array Char) (start : Nat),
        (original.matchAt? text start (fun stop => stop == text.size)).map Match.span =
            (regex.matchAt? text start (fun stop => stop == text.size)).map Match.span ∧
          forall nonEmpty, (original.search? text start nonEmpty).map Match.span =
            (regex.search? text start nonEmpty).map Match.span := by
  have clauses : (Regex.compile nestedExample).toOption.any (fun original =>
      original.body.isPositional && original.body.isSeparable original.flags &&
        (original.flags.unicode && original.body.keepsUnicode)) = true := by
    decide +kernel
  have lead : Reading.FlagsLead nestedExample.toList :=
    ⟨["im".toList, "s".toList], (nestedExample.toList).drop 9, by decide +kernel,
      by decide +kernel, by decide +kernel⟩
  have isolates : isolate "x" nestedExample = .ok isolatedNestedExample := by decide +kernel
  obtain ⟨original, compiled, checked⟩ := Except.exists_ok_of_any clauses
  rw [Bool.and_eq_true, Bool.and_eq_true, Bool.and_eq_true] at checked
  obtain ⟨⟨positional, separable⟩, unicode, keepsUnicode⟩ := checked
  obtain ⟨isolated, regex, same, recompiled, groups, flags, flagless, alike, places⟩ :=
    exists_isolate_of_flagsLead "x" compiled (by decide +kernel) positional lead separable
  cases isolates.symm.trans same
  exact ⟨original, regex, compiled, isolates, recompiled, groups, flags, flagless, fun text start =>
    ⟨(places text start).1 _, (places text start).2 (alike unicode keepsUnicode)⟩⟩

/-- Where a code point beyond the basic plane is put in a set the places may
differ, although the expression is isolated: its case is ignored no longer.
And a search may miss what the expression matches, if the classes are ASCII's
no longer for the whole. -/
theorem not_span_matchAt?_isolate :
    (Reading.FlagsLead "(?i)(𐐀)|(b)".toList ∧ '#' ∉ "(?i)(𐐀)|(b)".toList ∧
      isolate "x" "(?i)(𐐀)|(b)" = .ok "(?i:(?:𐐀)|(?:b))" ∧
      ∃ original regex, Regex.compile "(?i)(𐐀)|(b)" = .ok original ∧
        Regex.compile "(?i:(?:𐐀)|(?:b))" = .ok regex ∧ original.body.isPositional = true ∧
        (original.matchAt? #['𐐀'] 0 (fun stop => stop == 1)).map Match.span = some (0, 1) ∧
        (regex.matchAt? #['𐐀'] 0 (fun stop => stop == 1)).map Match.span = none) ∧
    (Reading.FlagsLead "(?a)\\W".toList ∧ '#' ∉ "(?a)\\W".toList ∧
      isolate "x" "(?a)\\W" = .ok "(?a:\\W)" ∧
      ∃ original regex, Regex.compile "(?a)\\W" = .ok original ∧
        Regex.compile "(?a:\\W)" = .ok regex ∧ original.body.isPositional = true ∧
        (original.search? #['é'] 0 false).map Match.span = some (0, 1) ∧
        (regex.search? #['é'] 0 false).map Match.span = none) := by
  have cased : Reading.FlagsLead "(?i)(𐐀)|(b)".toList :=
    ⟨["i".toList], "(𐐀)|(b)".toList, by decide +kernel, by decide +kernel, by decide +kernel⟩
  have classes : Reading.FlagsLead "(?a)\\W".toList :=
    ⟨["a".toList], "\\W".toList, by decide +kernel, by decide +kernel, by decide +kernel⟩
  refine ⟨⟨cased, by decide +kernel, by decide +kernel, ?_⟩, classes, by decide +kernel,
    by decide +kernel, ?_⟩
  · exact exists_compiled (by decide +kernel)
  · exact exists_compiled (by decide +kernel)

end Stencil

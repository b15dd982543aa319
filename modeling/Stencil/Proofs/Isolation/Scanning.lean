import Stencil.Proofs.Isolation.Resemblance
import Stencil.Proofs.Isolation.Step
import Stencil.Proofs.Reading.Following

namespace Stencil
namespace Regex
namespace Reading

/-!
The scan for groups, followed through an expression.  Side by side the
expression is read and so is what the scan makes of it, and between two tokens
the scan is in step with the reading of the expression.  A step of the scan
takes both to the next such place: mostly it is one token, but the opening of
a set or of a group is taken at once.

What is known of the right-hand side on the way is left open, and so is why it
can take its tokens.  Either what the scan gives is known to be read to its
end, or it is read because the expression is; and if it does not matter
whether it is read, what is left is that the scan comes to an end.
-/

open Isolation (Region withoutCapturesFrom?)
open Comparison (uncaptured isCongruent_uncaptured)

/-- An expression, scanned with more text after it, while what the scan gives
is read inside of some group or none.  It is all that stays the same while the
expression is read. -/
structure Setting where
  rightKind : GroupKind
  rightBelow : List Frame
  /-- The flags that have been moved to the group. -/
  moved : Flags
  /-- Whether the scan skips comments to the end of the line. -/
  verbose : Bool
  /-- What follows the expression: it may end a comment or a group but begins nothing. -/
  back : List Char
  backCloses : forall character, character ∈ back -> character ∈ [')', '\n']
  leftEnd : Assembly

def Setting.comparison (setting : Setting) : Comparison :=
  uncaptured setting.rightKind setting.rightBelow setting.moved

/-- Why the right-hand side can take what the scan gives, as long as the
left-hand side takes the tokens of the expression.  The reason differs: it may
be that the whole is known to be readable, or that each token follows from the
one on the left.  Only the three kinds of steps have to be accounted for. -/
structure Guide (setting : Setting) where
  /-- What is asked of the tokens of the expression. -/
  test : Reading -> Token -> Bool
  shows {settled : Reading} {token : Token} : test settled token = true ->
    settled.showsComments setting.verbose token = true
  /-- The right-hand side is where the outcome of the scan goes on, while the left-hand side is where
  the expression does. -/
  leads : Reading -> Reading -> Option (List Char) -> Prop
  takes {left settled leftLater right : Reading} {token : Token} {ahead : List Char}
    {outcome : Option (List Char)} : token.IsProper -> left.settle (some token) = .ok settled ->
    test settled token = true -> settled.takeSettled token = .ok leftLater ->
    leftLater.ReadsTo ahead setting.leftEnd -> left.mode.CapturesNot (some token) ->
    left.mode.beginsCondition token = false -> leads left right (outcome.map (token.characters ++ ·)) ->
    ∃ rightLater, leads leftLater rightLater outcome
  opens {position start stop : Nat} {assembly opened : Assembly} {right : Reading}
    {name : Option String} {outcome : Option (List Char)} :
    assembly.openCapture name start = .ok opened ->
    leads ⟨position, .opening start .parenthesis, assembly⟩ right
      (outcome.map (['?', ':'] ++ ·)) ->
    ∃ rightLater, leads ⟨stop, .item, opened⟩ rightLater outcome
  /-- The scan takes the name of a condition for a group that captures. -/
  depends {position stop start : Nat} {assembly : Assembly} {right : Reading} {ahead : List Char}
    {outcome : Option (List Char)} :
    ReadsTo ⟨stop, .opening start (.conditionName []), assembly⟩ ahead setting.leftEnd ->
    leads ⟨position, .opening start .question, assembly⟩ right
      (outcome.map (['(', '?', ':'] ++ ·)) ->
    ∃ rightLater, leads ⟨stop, .opening start (.conditionName []), assembly⟩ rightLater outcome

variable {setting : Setting} {guide : Guide setting} {test : Reading -> Token -> Bool}
  {verbose : Bool} {region : Region} {left right : Reading} {ahead rest : List Char}
  {outcome : Option (List Char)} {leftEnd : Assembly} {token : Token}

/-! ## The two readings -/

/-- Before the next token that both take: what is ahead on the left leads to
its end, and the outcome of the scan goes on on the right.  Nothing is said of
where the scan is, which may be in the middle of what it writes. -/
structure Abreast (guide : Guide setting) (ahead : List Char) (outcome : Option (List Char))
    (left right : Reading) : Prop where
  leftReads : left.ReadsTo ahead setting.leftEnd
  leads : guide.leads left right outcome
  skips : left.SkipsComments
  passed : left.passes guide.test (Token.split ahead).1 = true

/-- The next token of a text is taken, after the reading has settled for
it. -/
theorem ReadsTo.settles (proper : token.IsProper)
    (reads : left.ReadsTo (token.characters ++ ahead) leftEnd)
    (passed : left.passes test (Token.split (token.characters ++ ahead)).1 = true) :
    ∃ settled later, left.settle (some token) = .ok settled ∧ test settled token = true ∧
      settled.takeSettled token = .ok later ∧ left.take token = .ok later ∧
      later.ReadsTo ahead leftEnd ∧ later.passes test (Token.split ahead).1 = true := by
  rcases (readsTo_token_iff proper).mp reads with ⟨later, taken, others⟩
  rcases take_eq_ok_iff.mp taken with ⟨settled, settling, done⟩
  rw [Token.split_characters proper] at passed
  simp only [passes, settling, done, Bool.and_eq_true] at passed
  exact ⟨settled, later, settling, passed.1, done, taken, others, passed.2⟩

theorem complete_of_settle {settled : Reading} (settling : left.settle (some token) = .ok settled) :
    left.complete (some token) = .ok settled :=
  (settle_eq_ok_iff.mp settling).1

/-- Where the scan goes on token by token, no group that captures is being
opened. -/
theorem capturesNot_of_isScanned {mode : Mode} (scanned : mode.IsScanned rest) (next : Option Token) :
    mode.CapturesNot next := by
  cases mode with
  | opening start opening =>
      cases opening with
      | parenthesis => cases scanned
      | groupName characters => cases scanned
      | _ => trivial
  | _ => trivial

theorem beginsCondition_of_isScanned {mode : Mode}
    (scanned : mode.IsScanned (token.characters ++ rest)) : mode.beginsCondition token = false := by
  cases mode with
  | opening start opening =>
      cases opening with
      | question => exact Bool.eq_false_iff.mpr fun is => scanned.2.2 (Token.head?_of_is is rest)
      | _ => rfl
  | _ => rfl

namespace Abreast

/-- Both readings take a token. -/
theorem take (proper : token.IsProper)
    (abreast : Abreast guide (token.characters ++ ahead) (outcome.map (token.characters ++ ·)) left
      right) (capturesNot : left.mode.CapturesNot (some token))
    (begins : left.mode.beginsCondition token = false) :
    ∃ settled leftLater rightLater, left.complete (some token) = .ok settled ∧
      settled.showsComments setting.verbose token = true ∧
      settled.takeSettled token = .ok leftLater ∧ left.take token = .ok leftLater ∧
      Abreast guide ahead outcome leftLater rightLater := by
  rcases abreast.leftReads.settles proper abreast.passed with
    ⟨settled, leftLater, settling, tested, done, leftTaken, leftReads, passed⟩
  rcases guide.takes proper settling tested done leftReads capturesNot begins abreast.leads with
    ⟨rightLater, leads⟩
  have completed := complete_of_settle settling
  have skips := skipsComments_takeSettled (skipsComments_complete abreast.skips completed) done
  exact ⟨settled, leftLater, rightLater, completed, guide.shows tested, done, leftTaken, leftReads,
    leads, skips, passed⟩

theorem not_isLost (abreast : Abreast guide ahead outcome left right) : ¬ left.mode.IsLost :=
  fun lost => ne_ok_of_isLost lost abreast.leftReads.done

theorem take_mark {symbol : Char} (mark : symbol ∈ marks)
    (abreast : Abreast guide (symbol :: ahead) (outcome.map (symbol :: ·)) left right)
    (inStep : left.mode.InStep .outside (symbol :: rest)) :
    ∃ position assembly leftLater rightLater,
      takeSettled ⟨position, .item, assembly⟩ ⟨false, symbol⟩ = .ok leftLater ∧
      Abreast guide ahead outcome leftLater rightLater := by
  have proper : Token.IsProper ⟨false, symbol⟩ := by
    intro _ same
    cases same
    revert mark
    decide
  rcases take proper abreast (capturesNot_of_isScanned inStep.scanned _)
      (beginsCondition_of_isScanned inStep.scanned) with
    ⟨settled, leftLater, rightLater, completed, _, done, _, later⟩
  have settledInStep := inStep_complete inStep completed
  rcases item_or_isLost_of_mark mark settledInStep.region settledInStep.scanned
    (goesOn_of_complete completed) done with between | lost
  · rcases settled with ⟨position, mode, assembly⟩
    cases between
    exact ⟨position, assembly, leftLater, rightLater, done, later⟩
  · exact absurd lost later.not_isLost

end Abreast

/-! ## Places on the way -/

/-- The scan is in step with the two readings, and what it gives is what is
read on the right.  The two meet at such places only, and between them a group
may have been begun on both sides. -/
structure Together (guide : Guide setting) (ahead : List Char) (region : Region)
    (left right : Reading) : Prop where
  abreast : Abreast guide ahead
    (withoutCapturesFrom? setting.verbose region (ahead ++ setting.back)) left right
  inStep : left.mode.InStep region (ahead ++ setting.back)

def Advances (guide : Guide setting) (ahead : List Char) : Prop :=
  ∃ later region left right, later.length < ahead.length ∧ Together guide later region left right

theorem Together.advances_cons (together : Together guide ahead region left right)
    (character : Char) : Advances guide (character :: ahead) :=
  ⟨ahead, region, left, right, Nat.lt_succ_self _, together⟩

theorem Advances.cons (advances : Advances guide ahead) (character : Char) :
    Advances guide (character :: ahead) := by
  rcases advances with ⟨later, region, left, right, shorter, together⟩
  exact ⟨later, region, left, right, Nat.lt_succ_of_lt shorter, together⟩

theorem map_cons_append (outcome : Option (List Char)) (character : Char) (others : List Char) :
    outcome.map (character :: others ++ ·) = (outcome.map (others ++ ·)).map (character :: ·) := by
  rw [Option.map_map]
  rfl

/-- A character that ends nothing stands in the expression itself, not in what
follows it. -/
theorem exists_of_head?_append {character : Char} (closesNot : character ∉ [')', '\n'])
    (head : (ahead ++ setting.back).head? = some character) :
    ∃ others, ahead = character :: others := by
  cases ahead with
  | nil => exact absurd (setting.backCloses character (List.mem_of_mem_head? head)) closesNot
  | cons first others =>
      cases head
      exact ⟨others, rfl⟩

/-- A token that is copied leads to the next place, where the scan is in the
region after it. -/
theorem Together.copied (proper : token.IsProper)
    (together : Together guide (token.characters ++ ahead) region left right)
    (copied : region.copies token = true) : Advances guide (token.characters ++ ahead) := by
  rcases together with ⟨abreast, inStep⟩
  rw [List.append_assoc] at abreast inStep
  rw [Isolation.scan_copied proper copied] at abreast
  rcases abreast.take proper (capturesNot_of_isScanned inStep.scanned _)
      (beginsCondition_of_isScanned inStep.scanned) with
    ⟨settled, leftLater, rightLater, completed, shows, done, _, later⟩
  have settledInStep := inStep_complete inStep completed
  rcases inStep_takeSettled settledInStep (goesOn_of_complete completed) copied shows done with
    laterInStep | lost
  · refine ⟨ahead, _, leftLater, rightLater, ?_, later, laterInStep⟩
    have positive := List.length_pos_of_ne_nil (Token.characters_ne_nil token)
    rw [List.length_append]
    omega
  · exact absurd lost later.not_isLost

/-! ## Sets -/

theorem takeSettled_bracket (position : Nat) (assembly : Assembly) :
    takeSettled ⟨position, .item, assembly⟩ ⟨false, '['⟩ =
      .ok ⟨position + 1, .set ⟨position, false, []⟩ .opened, assembly⟩ := by
  have notBlank : Token.passes ⟨false, '['⟩ (fun c => Text.isAsciiBlank c.toNat) = false := rfl
  have notHash : Token.is ⟨false, '['⟩ '#' = false := rfl
  simp only [takeSettled, takeInExpression, notBlank, notHash, Bool.and_false, Bool.false_eq_true,
    if_false]
  rfl

theorem Abreast.take_caret {set : SetReading} (mode : left.mode = .set set .opened)
    (abreast : Abreast guide ('^' :: ahead) (outcome.map ('^' :: ·)) left right) :
    ∃ leftLater rightLater, leftLater.mode = .set { set with negated := true } .beforeItem ∧
      Abreast guide ahead outcome leftLater rightLater := by
  rcases left with ⟨position, _, assembly⟩
  cases mode
  rcases abreast.take (Token.isProper_of_ne (by decide)) trivial rfl with
    ⟨settled, leftLater, rightLater, completed, _, done, _, later⟩
  refine ⟨leftLater, rightLater, ?_, later⟩
  cases completed
  cases done
  rfl

/-- A bracket that comes first in a set is an item of it. -/
theorem Abreast.take_first {set : SetReading} {place : SetReading.Place} (rest : List Char)
    (mode : left.mode = .set set place) (first : place = .opened ∨ place = .beforeItem)
    (memberless : set.members = [])
    (abreast : Abreast guide (']' :: ahead) (outcome.map (']' :: ·)) left right) :
    ∃ leftLater rightLater, leftLater.mode.InStep .inClass rest ∧
      Abreast guide ahead outcome leftLater rightLater := by
  rcases left with ⟨position, _, assembly⟩
  cases mode
  rcases abreast.take (Token.isProper_of_ne (by decide)) trivial rfl with
    ⟨settled, leftLater, rightLater, completed, _, done, _, later⟩
  refine ⟨leftLater, rightLater, ?_, later⟩
  cases completed
  rcases set with ⟨start, negated, members⟩
  cases memberless
  have begun : forall mode : Mode,
      beginSetItem ⟨position + 1, mode, assembly⟩ ⟨start, negated, []⟩ .beforeItem position
        ⟨false, ']'⟩ = .ok leftLater -> leftLater.mode.InStep .inClass rest :=
    fun _ => inStep_beginSetItem rest
  rcases first with rfl | rfl
  · exact begun _ done
  · exact begun _ done

theorem Together.bracket (together : Together guide ('[' :: ahead) .outside left right) :
    Advances guide ('[' :: ahead) := by
  rcases together with ⟨abreast, inStep⟩
  rw [List.cons_append] at abreast inStep
  have opened : forall {outcome : Option (List Char)},
      Abreast guide ('[' :: ahead) (outcome.map ('[' :: ·)) left right ->
      ∃ position leftLater rightLater, leftLater.mode = .set ⟨position, false, []⟩ .opened ∧
        Abreast guide ahead outcome leftLater rightLater := by
    intro outcome abreast
    rcases abreast.take_mark (by decide) inStep with
      ⟨position, assembly, leftLater, rightLater, done, later⟩
    rw [takeSettled_bracket] at done
    cases done
    exact ⟨position, _, rightLater, rfl, later⟩
  by_cases caret : (ahead ++ setting.back).head? = some '^'
  · rcases exists_of_head?_append (by decide) caret with ⟨ahead, rfl⟩
    by_cases bracket : (ahead ++ setting.back).head? = some ']'
    · rcases exists_of_head?_append (by decide) bracket with ⟨ahead, rfl⟩
      have scanned : withoutCapturesFrom? setting.verbose .outside
            ('[' :: '^' :: ']' :: (ahead ++ setting.back)) =
          (withoutCapturesFrom? setting.verbose .inClass (ahead ++ setting.back)).map
            (['[', '^', ']'] ++ ·) := rfl
      rw [List.cons_append, List.cons_append, scanned, map_cons_append, map_cons_append] at abreast
      rcases opened abreast with ⟨position, leftMiddle, rightMiddle, mode, middle⟩
      rcases middle.take_caret mode with ⟨leftNext, rightNext, nextMode, next⟩
      rcases next.take_first (ahead ++ setting.back) nextMode (.inr rfl) rfl with
        ⟨leftLater, rightLater, laterInStep, later⟩
      exact ⟨ahead, _, leftLater, rightLater, by simp only [List.length_cons]; omega, later,
        laterInStep⟩
    · rw [List.cons_append, Isolation.scan_caret bracket, map_cons_append] at abreast
      rcases opened abreast with ⟨position, leftMiddle, rightMiddle, mode, middle⟩
      rcases middle.take_caret mode with ⟨leftLater, rightLater, laterMode, later⟩
      refine ⟨ahead, _, leftLater, rightLater, by simp only [List.length_cons]; omega, later, ?_⟩
      rw [laterMode]
      exact ⟨rfl, fun _ => bracket⟩
  · by_cases bracket : (ahead ++ setting.back).head? = some ']'
    · rcases exists_of_head?_append (by decide) bracket with ⟨ahead, rfl⟩
      have scanned : withoutCapturesFrom? setting.verbose .outside
            ('[' :: ']' :: (ahead ++ setting.back)) =
          (withoutCapturesFrom? setting.verbose .inClass (ahead ++ setting.back)).map
            (['[', ']'] ++ ·) := rfl
      rw [List.cons_append, scanned, map_cons_append] at abreast
      rcases opened abreast with ⟨position, leftMiddle, rightMiddle, mode, middle⟩
      rcases middle.take_first (ahead ++ setting.back) mode (.inl rfl) rfl with
        ⟨leftLater, rightLater, laterInStep, later⟩
      exact ⟨ahead, _, leftLater, rightLater, by simp only [List.length_cons]; omega, later,
        laterInStep⟩
    · rw [Isolation.scan_bracket caret bracket] at abreast
      rcases opened abreast with ⟨position, leftLater, rightLater, mode, later⟩
      refine ⟨ahead, _, leftLater, rightLater, Nat.lt_succ_self _, later, ?_⟩
      rw [mode]
      exact ⟨rfl, caret, bracket⟩

/-! ## Groups that capture -/

/-- No identifier holds a backslash. -/
theorem not_mem_of_isIdentifier {name : List Char} (identifier : Text.isIdentifier name = true) :
    '\\' ∉ name := by
  intro member
  have foreign : Text.standsInNames '\\' = false := by
    decide +kernel
  exact absurd (foreign.symm.trans (Text.standsInNames_of_isIdentifier identifier member))
    Bool.false_ne_true

/-- A token ends the name of a group, or is taken into it. -/
theorem take_groupName {position start : Nat} {begun : List Char} {assembly : Assembly}
    {later : Reading}
    (taken : take ⟨position, .opening start (.groupName begun), assembly⟩ token = .ok later) :
    (token = ⟨false, '>'⟩ ∧ Text.isIdentifier begun = true ∧
      ∃ identifier stop opened, assembly.openCapture (some identifier) start = .ok opened ∧
        later = ⟨stop, .item, opened⟩) ∨
    (token ≠ ⟨false, '>'⟩ ∧ ∃ stop,
      later = ⟨stop, .opening start (.groupName (begun ++ token.characters)), assembly⟩) := by
  rw [take_opening rfl] at taken
  rcases Except.bind_eq_ok_iff.mp taken with ⟨outcome, decided, opening⟩
  unfold Opening.take at decided
  dsimp only at decided
  split at decided
  · rename_i ends
    rcases Except.map_eq_ok_iff.mp decided with ⟨name, ended, rfl⟩
    simp only [takeOpened, Option.map_some] at opening
    split at opening
    · rename_i opened captured
      cases opening
      exact .inl ⟨Token.eq_of_is ends, isIdentifier_of_endIdentifier ended, _, _, opened, captured,
        rfl⟩
    · cases opening
  · rename_i goesOn
    cases decided
    cases opening
    refine .inr ⟨fun same => goesOn ?_, _, rfl⟩
    rw [same]
    rfl

/-- The name of a group ends at the first `>`, and then the group is
opened. -/
theorem ReadsTo.groupName {position start : Nat} {begun : List Char} {assembly : Assembly}
    (reads : ReadsTo ⟨position, .opening start (.groupName begun), assembly⟩ ahead leftEnd)
    (passed : passes test ⟨position, .opening start (.groupName begun), assembly⟩
      (Token.split ahead).1 = true) :
    ∃ name rest stop identifier opened, ahead = name ++ '>' :: rest ∧ '>' ∉ name ∧
      Text.isIdentifier (begun ++ name) = true ∧
      assembly.openCapture (some identifier) start = .ok opened ∧
      ReadsTo ⟨stop, .item, opened⟩ rest leftEnd ∧
      passes test ⟨stop, .item, opened⟩ (Token.split rest).1 = true := by
  induction length : ahead.length using Nat.strongRecOn generalizing ahead position begun with
  | ind size inductiveHypothesis =>
      rcases Token.eq_nil_or_exists_characters reads.whole with rfl | ⟨token, rest, proper, rfl⟩
      · rcases finish_eq_ok_iff.mp (readsTo_nil_iff.mp reads) with ⟨completed, completing, noFault, _⟩
        cases completing
        cases noFault
      rcases reads.settles proper passed with
        ⟨settled, later, _, _, _, taken, laterReads, laterPassed⟩
      rcases take_groupName taken with
        ⟨rfl, identifier, text, stop, opened, captured, rfl⟩ | ⟨notEnd, stop, rfl⟩
      · refine ⟨[], rest, stop, text, opened, rfl, List.not_mem_nil, ?_, captured, laterReads,
          laterPassed⟩
        rw [List.append_nil]
        exact identifier
      · have shorter : rest.length < size := by
          have positive := List.length_pos_of_ne_nil (Token.characters_ne_nil token)
          rw [← length, List.length_append]
          omega
        rcases inductiveHypothesis _ shorter laterReads laterPassed rfl with
          ⟨name, others, stop, text, opened, rfl, unclosed, identifier, captured, further⟩
        rw [List.append_assoc] at identifier
        refine ⟨token.characters ++ name, others, stop, text, opened, ?_, ?_, identifier, captured,
          further⟩
        · rw [List.append_assoc]
        rw [List.mem_append, not_or]
        refine ⟨?_, unclosed⟩
        rcases token with ⟨escaped, character⟩
        cases escaped with
        | true =>
            have backslash : '\\' ∈ begun ++ (['\\', character] ++ name) :=
              List.mem_append_right _ (List.mem_append_left _ List.mem_cons_self)
            exact absurd backslash (not_mem_of_isIdentifier identifier)
        | false =>
            intro member
            cases List.mem_singleton.mp member
            exact notEnd rfl

/-- What follows a parenthesis, if it is no question mark, is inside of a
group that captures. -/
theorem ReadsTo.unnamed {position start : Nat} {assembly : Assembly}
    (notQuestion : ahead.head? ≠ some '?')
    (reads : ReadsTo ⟨position, .opening start .parenthesis, assembly⟩ ahead leftEnd)
    (passed : passes test ⟨position, .opening start .parenthesis, assembly⟩
      (Token.split ahead).1 = true) :
    ∃ opened, assembly.openCapture none start = .ok opened ∧
      ReadsTo ⟨position, .item, opened⟩ ahead leftEnd ∧
      passes test ⟨position, .item, opened⟩ (Token.split ahead).1 = true := by
  rcases captured : assembly.openCapture none start with _ | opened
  · cases captured
  have ends : (Token.split ahead).1.head?.any (Opening.goesOn .parenthesis) = false := by
    rcases Token.eq_nil_or_exists_characters reads.whole with rfl | ⟨token, rest, proper, rfl⟩
    · rfl
    · rw [Token.split_characters proper]
      exact Bool.eq_false_iff.mpr fun is => notQuestion (Token.head?_of_is is rest)
  have same : settle ⟨position, .opening start .parenthesis, assembly⟩
        (Token.split ahead).1.head? =
      settle ⟨position, .item, opened⟩ (Token.split ahead).1.head? := by
    have completed : complete ⟨position, .opening start .parenthesis, assembly⟩
        (Token.split ahead).1.head? = .ok ⟨position, .item, opened⟩ := by
      unfold complete
      simp only [ends, Bool.false_eq_true, if_false, takeOpened, Option.map_none, captured]
      rfl
    unfold settle
    rw [completed]
    rfl
  refine ⟨opened, rfl, reads.congr same, ?_⟩
  cases tokens : (Token.split ahead).1 with
  | nil => rfl
  | cons token others =>
      rw [tokens] at passed same
      have settles : settle ⟨position, .opening start .parenthesis, assembly⟩ (some token) =
          settle ⟨position, .item, opened⟩ (some token) := same
      rw [passes, settles] at passed
      exact passed

theorem takeSettled_parenthesis (position : Nat) (assembly : Assembly) :
    takeSettled ⟨position, .item, assembly⟩ ⟨false, '('⟩ =
      .ok ⟨position + 1, .opening position .parenthesis, assembly⟩ := by
  have notBlank : Token.passes ⟨false, '('⟩ (fun c => Text.isAsciiBlank c.toNat) = false := rfl
  have notHash : Token.is ⟨false, '('⟩ '#' = false := rfl
  simp only [takeSettled, takeInExpression, notBlank, notHash, Bool.and_false, Bool.false_eq_true,
    if_false]
  rfl

/-- A character that an opening goes on with is taken. -/
theorem ReadsTo.further {position start : Nat} {opening further : Opening} {assembly : Assembly}
    {character : Char} (notBackslash : character ≠ '\\')
    (goesOn : opening.goesOn ⟨false, character⟩ = true)
    (decided : forall stop, opening.take ⟨false, character⟩ stop = .ok (.inl further))
    (reads : ReadsTo ⟨position, .opening start opening, assembly⟩ (character :: ahead) leftEnd)
    (passed : passes test ⟨position, .opening start opening, assembly⟩
      (Token.split (character :: ahead)).1 = true) :
    ReadsTo ⟨position + 1, .opening start further, assembly⟩ ahead leftEnd ∧
      passes test ⟨position + 1, .opening start further, assembly⟩
        (Token.split ahead).1 = true := by
  rcases reads.settles (Token.isProper_of_ne notBackslash) passed with
    ⟨_, later, _, _, _, taken, laterReads, laterPassed⟩
  rw [take_opening_further goesOn (decided _)] at taken
  cases taken
  exact ⟨laterReads, laterPassed⟩

namespace Abreast

variable {position start : Nat} {opening : Opening} {assembly : Assembly}

/-- Both readings take a character of an opening that goes on. -/
theorem take_further {character : Char} {further : Opening} (notBackslash : character ≠ '\\')
    (goesOn : opening.goesOn ⟨false, character⟩ = true)
    (decided : forall stop, opening.take ⟨false, character⟩ stop = .ok (.inl further))
    (capturesNot : (Mode.opening start opening).CapturesNot (some ⟨false, character⟩))
    (begins : (Mode.opening start opening).beginsCondition ⟨false, character⟩ = false)
    (abreast : Abreast guide (character :: ahead) (outcome.map (character :: ·))
      ⟨position, .opening start opening, assembly⟩ right) :
    ∃ rightLater, Abreast guide ahead outcome
      ⟨position + 1, .opening start further, assembly⟩ rightLater := by
  rcases abreast.take (Token.isProper_of_ne notBackslash) capturesNot begins with
    ⟨_, leftLater, rightLater, _, _, _, taken, later⟩
  rw [take_opening_further goesOn (decided _)] at taken
  cases taken
  exact ⟨rightLater, later⟩

/-- Inside of a group that captures on the left, the readings are abreast
after the scan has made it a plain one. -/
theorem capture {name : Option String} {stop : Nat} {opened : Assembly}
    (leads : guide.leads ⟨position, .opening start .parenthesis, assembly⟩ right
      (outcome.map (['?', ':'] ++ ·)))
    (captured : assembly.openCapture name start = .ok opened)
    (leftReads : ReadsTo ⟨stop, .item, opened⟩ ahead setting.leftEnd)
    (passed : passes guide.test ⟨stop, .item, opened⟩ (Token.split ahead).1 = true) :
    ∃ rightLater, Abreast guide ahead outcome ⟨stop, .item, opened⟩ rightLater := by
  rcases guide.opens captured leads with ⟨rightLater, later⟩
  exact ⟨rightLater, leftReads, later, skipsComments_of_ne nofun, passed⟩

/-- A parenthesis after a question mark begins the name of a condition, which
does not begin with a question mark. -/
theorem conditionName
    (abreast : Abreast guide ('(' :: ahead)
      (withoutCapturesFrom? setting.verbose .outside ('(' :: (ahead ++ setting.back)))
      ⟨position, .opening start .question, assembly⟩ right) :
    ∃ rightLater, Abreast guide ahead
      (withoutCapturesFrom? setting.verbose .outside (ahead ++ setting.back))
      ⟨position + 1, .opening start (.conditionName []), assembly⟩ rightLater := by
  rcases abreast.leftReads.further (by decide) rfl (fun _ => rfl) abreast.passed with
    ⟨reads, passed⟩
  have notQuestion : (ahead ++ setting.back).head? ≠ some '?' := by
    intro question
    rcases exists_of_head?_append (by decide) question with ⟨others, rfl⟩
    rcases reads.further (by decide) rfl (fun _ => rfl) passed with ⟨nameReads, _⟩
    have foreign : Text.standsInNames '?' = false := by
      decide +kernel
    exact ne_ok_of_isLost (.condition foreign (List.mem_singleton.mpr rfl)) nameReads.done
  have leads := abreast.leads
  rw [Isolation.scan_parenthesis notQuestion] at leads
  rcases guide.depends reads leads with ⟨rightLater, later⟩
  exact ⟨rightLater, reads, later, skipsComments_of_ne nofun, passed⟩

theorem comment
    (abreast : Abreast guide ('?' :: '#' :: ahead)
      ((withoutCapturesFrom? setting.verbose .comment (ahead ++ setting.back)).map
        (['?', '#'] ++ ·))
      ⟨position, .opening start .parenthesis, assembly⟩ right) :
    Advances guide ('?' :: '#' :: ahead) := by
  rw [map_cons_append] at abreast
  rcases abreast.take_further (by decide) rfl (fun _ => rfl) (by exact rfl) rfl with
    ⟨rightNext, next⟩
  rcases next.take (Token.isProper_of_ne (by decide)) trivial rfl with
    ⟨_, leftLater, rightLater, _, _, _, taken, later⟩
  rw [take_opening rfl] at taken
  cases taken
  have together : Together guide ahead .comment _ rightLater := ⟨later, rfl, trivial⟩
  exact (together.advances_cons '#').cons '?'

theorem named
    (abreast : Abreast guide ('?' :: 'P' :: '<' :: ahead)
      ((withoutCapturesFrom? setting.verbose .groupName (ahead ++ setting.back)).map
        (['?', ':'] ++ ·))
      ⟨position, .opening start .parenthesis, assembly⟩ right) :
    Advances guide ('?' :: 'P' :: '<' :: ahead) := by
  rcases abreast.leftReads.further (by decide) rfl (fun _ => rfl) abreast.passed with
    ⟨questionReads, questionPassed⟩
  rcases questionReads.further (by decide) rfl (fun _ => rfl) questionPassed with
    ⟨extensionReads, extensionPassed⟩
  rcases extensionReads.further (by decide) rfl (fun _ => rfl) extensionPassed with
    ⟨nameReads, namePassed⟩
  rcases nameReads.groupName namePassed with
    ⟨name, rest, stop, identifier, captured, rfl, unclosed, _, capturing, reads, passed⟩
  have leads := abreast.leads
  rw [List.append_assoc, List.cons_append, Isolation.scan_groupName unclosed] at leads
  rcases Abreast.capture leads capturing reads passed with ⟨rightLater, later⟩
  exact ⟨rest, .outside, _, rightLater, by simp only [List.length_cons, List.length_append]; omega,
    later, inStep_item _ rfl⟩

/-- Any other extension is copied, but the name of a condition is taken for a
group. -/
theorem extension (notComment : (ahead ++ setting.back).head? ≠ some '#')
    (notNamed : ¬ ['P', '<'] <+: ahead ++ setting.back)
    (abreast : Abreast guide ('?' :: ahead)
      ((withoutCapturesFrom? setting.verbose .outside (ahead ++ setting.back)).map ('?' :: ·))
      ⟨position, .opening start .parenthesis, assembly⟩ right) :
    Advances guide ('?' :: ahead) := by
  rcases abreast.take_further (by decide) rfl (fun _ => rfl) (by exact rfl) rfl with
    ⟨rightNext, next⟩
  by_cases condition : (ahead ++ setting.back).head? = some '('
  · rcases exists_of_head?_append (by decide) condition with ⟨ahead, rfl⟩
    rcases next.conditionName with ⟨rightLater, later⟩
    have together : Together guide ahead .outside _ rightLater := ⟨later, rfl, trivial⟩
    exact (together.advances_cons '(').cons '?'
  · have together : Together guide ahead .outside _ rightNext :=
      ⟨next, rfl, notComment, notNamed, condition⟩
    exact together.advances_cons '?'

/-- A parenthesis without a question mark opens a group that captures, and
both are at the beginning of what is inside. -/
theorem unnamed (notQuestion : (ahead ++ setting.back).head? ≠ some '?')
    (abreast : Abreast guide ahead
      ((withoutCapturesFrom? setting.verbose .outside (ahead ++ setting.back)).map
        (['?', ':'] ++ ·))
      ⟨position, .opening start .parenthesis, assembly⟩ right) :
    ∃ leftLater rightLater, Together guide ahead .outside leftLater rightLater := by
  have further : ahead.head? ≠ some '?' := by
    intro same
    rcases List.head?_eq_some_iff.mp same with ⟨others, rfl⟩
    exact notQuestion rfl
  rcases abreast.leftReads.unnamed further abreast.passed with ⟨captured, capturing, reads, passed⟩
  rcases Abreast.capture abreast.leads capturing reads passed with ⟨rightLater, later⟩
  exact ⟨_, rightLater, later, inStep_item _ rfl⟩

end Abreast

/-- After a parenthesis both are at the beginning of a group. -/
theorem Together.opened (together : Together guide ('(' :: ahead) .outside left right)
    (scanned : withoutCapturesFrom? setting.verbose .outside ('(' :: (ahead ++ setting.back)) =
      outcome.map ('(' :: ·)) :
    ∃ position assembly rightLater, Abreast guide ahead outcome
      ⟨position + 1, .opening position .parenthesis, assembly⟩ rightLater := by
  rcases together with ⟨abreast, inStep⟩
  rw [List.cons_append] at abreast inStep
  rw [scanned] at abreast
  rcases abreast.take_mark (by decide) inStep with
    ⟨position, assembly, leftLater, rightLater, done, later⟩
  rw [takeSettled_parenthesis] at done
  cases done
  exact ⟨position, assembly, rightLater, later⟩

/-- A parenthesis leads to the next place, which is past the name if there is
one. -/
theorem Together.parenthesis (together : Together guide ('(' :: ahead) .outside left right) :
    Advances guide ('(' :: ahead) := by
  by_cases question : (ahead ++ setting.back).head? = some '?'
  · rcases exists_of_head?_append (by decide) question with ⟨ahead, rfl⟩
    by_cases comment : (ahead ++ setting.back).head? = some '#'
    · rcases exists_of_head?_append (by decide) comment with ⟨ahead, rfl⟩
      rcases together.opened (map_cons_append _ _ _) with ⟨position, assembly, rightLater, later⟩
      exact later.comment.cons '('
    by_cases named : ['P', '<'] <+: ahead ++ setting.back
    · rcases named with ⟨others, starts⟩
      have letter : (ahead ++ setting.back).head? = some 'P' := (congrArg List.head? starts).symm
      rcases exists_of_head?_append (by decide) letter with ⟨ahead, rfl⟩
      have angle : (ahead ++ setting.back).head? = some '<' :=
        (congrArg List.head? (List.cons.inj starts).2).symm
      rcases exists_of_head?_append (by decide) angle with ⟨ahead, rfl⟩
      rcases together.opened (map_cons_append _ _ _) with ⟨position, assembly, rightLater, later⟩
      exact later.named.cons '('
    rcases together.opened ((Isolation.scan_extension comment named).trans
      (map_cons_append _ _ _)) with ⟨position, assembly, rightLater, later⟩
    exact (later.extension comment named).cons '('
  · rcases together.opened ((Isolation.scan_parenthesis question).trans
      (map_cons_append _ _ _)) with ⟨position, assembly, rightLater, later⟩
    rcases later.unnamed question with ⟨_, _, inside⟩
    exact inside.advances_cons '('

/-! ## The way to the end -/

/-- A token that the scan does not copy opens a group or a set, if comments
are where it sees them. -/
theorem opens_of_not_copies {settled : Reading} (inStep : settled.mode.InStep region rest)
    (shows : settled.showsComments verbose token = true) (copiesNot : region.copies token ≠ true) :
    region = .outside ∧ (token = ⟨false, '('⟩ ∨ token = ⟨false, '['⟩) := by
  rcases settled with ⟨position, mode, assembly⟩
  rcases inStep with ⟨same, scanned⟩
  cases region with
  | outside =>
      refine ⟨rfl, ?_⟩
      rw [Region.copies, ne_eq, Bool.not_eq_true', Bool.not_eq_false, Bool.or_eq_true] at copiesNot
      exact copiesNot.imp Token.eq_of_is Token.eq_of_is
  | inClass => exact absurd rfl copiesNot
  | lineComment =>
      cases Mode.eq_lineComment_of_region same
      exact absurd shows copiesNot
  | comment =>
      rcases Mode.exists_comment_of_region same with ⟨start, inComment⟩
      cases inComment
      exact absurd shows copiesNot
  | groupName =>
      cases mode with
      | escape place start first escape => cases place <;> cases same
      | opening start opening =>
          cases opening with
          | groupName characters => cases scanned
          | _ => cases same
      | _ => cases same

/-- Until the expression ends there is always a place further on.  Either a
token is copied, or it opens a group or a set. -/
theorem Together.advances (together : Together guide ahead region left right)
    (goesOn : ahead ≠ []) : Advances guide ahead := by
  rcases Token.eq_nil_or_exists_characters together.abreast.leftReads.whole with
    rfl | ⟨token, rest, proper, rfl⟩
  · exact absurd rfl goesOn
  · by_cases copied : region.copies token = true
    · exact together.copied proper copied
    · rcases together.abreast.leftReads.settles proper together.abreast.passed with
        ⟨settled, _, settling, tested, _⟩
      have inStep := inStep_complete together.inStep (complete_of_settle settling)
      rcases opens_of_not_copies inStep (guide.shows tested) copied with ⟨rfl, rfl | rfl⟩
      · exact together.parenthesis
      · exact together.bracket

/-- The readings are still alike where the expression ends.  This goes by
induction on how much of it is ahead. -/
theorem Together.reachesEnd (together : Together guide ahead region left right) :
    ∃ regionLater leftLater rightLater, Together guide [] regionLater leftLater rightLater := by
  induction length : ahead.length using Nat.strongRecOn generalizing ahead region left right with
  | ind size inductiveHypothesis =>
      by_cases ends : ahead = []
      · subst ends
        exact ⟨region, left, right, together⟩
      · rcases together.advances ends with
          ⟨later, regionLater, leftLater, rightLater, shorter, laterTogether⟩
        exact inductiveHypothesis later.length (length ▸ shorter) laterTogether rfl

/-- From between two items, the readings go to the end of the expression
together. -/
theorem Guide.reachesEnd (guide : Guide setting) (between : left.mode = .item)
    (leftReads : left.ReadsTo ahead setting.leftEnd)
    (passed : left.passes guide.test (Token.split ahead).1 = true)
    (leads : guide.leads left right
      (withoutCapturesFrom? setting.verbose .outside (ahead ++ setting.back))) :
    ∃ region leftLater rightLater, Together guide [] region leftLater rightLater := by
  have skips : left.SkipsComments := skipsComments_of_ne (between ▸ nofun)
  have together : Together guide ahead .outside left right :=
    ⟨⟨leftReads, leads, skips, passed⟩, inStep_item _ between⟩
  exact together.reachesEnd

end Reading
end Regex
end Stencil

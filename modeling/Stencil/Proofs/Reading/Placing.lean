import Stencil.Proofs.Reading.Embedding
import Stencil.Proofs.Reading.Following

namespace Stencil
namespace Regex

/-!
Placing an expression in a group.  What an expression without groups has its
reading take alone can be taken in a capturing group as well, with one
exception: flags for the whole expression can be set only at its very start,
so inside a group they are misplaced.  Nothing else can go wrong there.
-/

open Comparison (embedded isCongruent_embedded)

theorem EscapePlace.Alike.symm {place other : EscapePlace} (alike : place.Alike other) :
    other.Alike place := by
  cases alike with
  | outside => exact .outside
  | inSet start other negated members place => exact .inSet other start negated members place

theorem Mode.Alike.symm {left right : Mode} (alike : left.Alike right) : right.Alike left := by
  cases alike with
  | item => exact .item
  | lineComment => exact .lineComment
  | comment start other => exact .comment other start
  | escape places start other token escape => exact .escape places.symm other start token escape
  | set start other negated members place => exact .set other start negated members place
  | bounds start other reading => exact .bounds other start reading
  | quantified counts => exact .quantified counts
  | opening start other opening => exact .opening other start opening

variable {group : Nat} {enclosing : Frame} {outer : List Frame} {begun : Assembly}

theorem GroupKind.Facing.left_ne_conditional {left right : GroupKind} (facing : Facing left right)
    (group : Nat) : left ≠ .conditional group := by
  cases facing <;> exact nofun

/-- There is always a group around what is read in a group, so it is never at
its own start. -/
theorem Comparison.Similar.outer_ne_nil {left right : Assembly}
    (similar : (embedded group enclosing outer begun).Similar left right) : left.outer ≠ [] := by
  rcases similar with ⟨_, stacked, _, _, _⟩
  cases stacked with
  | base _ _ _ _ leftBelow _ =>
      rw [leftBelow]
      exact nofun
  | push _ _ outer =>
      intro outermost
      rw [outermost] at outer
      generalize right.outer = rightOuter at outer
      cases outer

/-- Inside the group the reading may go on wherever it may alone: nothing it
could be refused for there is missing here. -/
theorem Comparison.Similar.facesBack {left right : Assembly}
    (similar : (embedded group enclosing outer begun).Similar left right) :
    Reading.Faces right left := by
  have verbose := similar.verbose
  have around := similar.outer_ne_nil
  rcases similar with ⟨_, stacked, _, _, _⟩
  cases stacked with
  | base frames leftKind _ _ _ rightBelow =>
      refine ⟨verbose.symm, fun _ => around, (repeatProblem?_eq_none_congr frames.pieces).mpr,
        fun opened => absurd rightBelow opened, fun _ same => ?_⟩
      cases leftKind.symm.trans same
  | push frames kinds _ =>
      exact ⟨verbose.symm, fun _ => around, (repeatProblem?_eq_none_congr frames.pieces).mpr,
        fun _ => kinds.left_ne_capture, kinds.left_ne_conditional⟩

namespace Reading

variable {left right settled rightLater : Reading} {token : Token}

theorem exists_take_placed (alike : Alike (embedded group enclosing outer begun) left right)
    (settling : right.settle (some token) = .ok settled)
    (done : settled.takeSettled token = .ok rightLater) (plain : rightLater.assembly.IsPlain)
    (flagsNot : settled.setsFlags token = false) : ∃ leftLater, left.take token = .ok leftLater := by
  rcases settle_eq_ok_iff.mp settling with ⟨completing, allowed⟩
  have settledPlain := (becomes_takeSettled done).isPlain plain
  have opensNone := opensNone_of_isPlain (some token) right.mode
  rcases (follows_complete (.forgone forgoes_isPlain) alike.mode.symm opensNone).exists_ok completing
    settledPlain with ⟨leftSettled, leftCompleting, _⟩
  have settledAlike := agree_complete isCongruent_embedded alike (some token) leftSettled settled
    leftCompleting completing settledPlain
  have faces := settledAlike.assembly.facesBack
  have leftAllowed := refusal?_eq_none settledAlike.mode.symm faces allowed
  rcases (follows_takeSettled (.forgone forgoes_isPlain) settledAlike.mode.symm faces allowed
    (opensNone_complete opensNone completing) flagsNot).exists_ok done plain with
    ⟨leftLater, leftDone, _⟩
  refine ⟨leftLater, take_eq_ok_iff.mpr ⟨leftSettled, ?_, leftDone⟩⟩
  exact settle_eq_ok_iff.mpr ⟨leftCompleting, leftAllowed⟩

/-- What sets flags alone is misplaced in the group, where it is not at the
start of the expression any longer. -/
theorem take_placed_flags (alike : Alike (embedded group enclosing outer begun) left right)
    (settling : right.settle (some token) = .ok settled)
    (flags : settled.setsFlags token = true) :
    ∃ start, left.take token = .error (.invalid .misplacedGlobalFlags (some start)) := by
  rcases mode_of_setsFlags (settle_eq_ok_iff.mp settling).1 flags with ⟨start, added, begins, closes⟩
  have startNot : left.assembly.isAtStart = false := by
    rw [Assembly.isAtStart, List.isEmpty_eq_false_iff.mpr alike.assembly.outer_ne_nil]
    rfl
  rcases alike.mode.symm.exists_opening begins with ⟨other, leftBegins⟩
  refine ⟨other, ?_⟩
  rw [take_flags leftBegins closes, startNot]
  rfl

/-- What has been taken alone is taken in the group, or it has set flags,
which are misplaced there. -/
theorem takeAll_placed (alike : Alike (embedded group enclosing outer begun) left right)
    (setsSome : right.mode.SetsSome) {tokens : List Token}
    (done : right.takeAll tokens = .ok rightLater) (plain : rightLater.assembly.IsPlain) :
    (∃ leftLater, left.takeAll tokens = .ok leftLater) ∨
      rightLater.assembly.flags ≠ {} ∧
        ∃ start, left.takeAll tokens = .error (.invalid .misplacedGlobalFlags (some start)) := by
  induction tokens generalizing left right with
  | nil => exact .inl ⟨left, rfl⟩
  | cons token rest inductiveHypothesis =>
      rcases takeAll_cons_eq_ok_iff.mp done with ⟨middle, taken, others⟩
      rcases take_eq_ok_iff.mp taken with ⟨settled, settling, settledTaken⟩
      have middlePlain := (becomes_takeAll others).isPlain plain
      cases flags : settled.setsFlags token with
      | true =>
          have settledSome := setsSome_complete setsSome (settle_eq_ok_iff.mp settling).1
          have someSet := flags_ne_none_of_setsFlags settledSome flags settledTaken
          rcases take_placed_flags alike settling flags with ⟨start, refused⟩
          refine .inr ⟨(becomes_takeAll others).flags_ne_none someSet, start, ?_⟩
          exact takeAll_cons_of_error refused rest
      | false =>
          rcases exists_take_placed alike settling settledTaken middlePlain flags with
            ⟨leftMiddle, leftTaken⟩
          have middleAlike := alike_take isCongruent_embedded alike leftTaken taken middlePlain
          rw [takeAll_cons_of_ok leftTaken]
          exact inductiveHypothesis middleAlike (setsSome_take taken) others

/-- Where the expression ends alone, the group can be closed.  A comment to
the end of the line would prevent it, but is read only where comments are
skipped. -/
theorem exists_take_closing {assembly : Assembly}
    (alike : Alike (embedded group enclosing outer begun) left right)
    (skips : right.SkipsComments) (ended : right.finish = .ok assembly)
    (plain : assembly.IsPlain) : ∃ later, left.take closing = .ok later := by
  rcases finish_eq_ok_iff.mp ended with ⟨completed, completing, noFault, rfl⟩
  have notNaming := alike.mode.isNaming_eq.trans (isNaming_of_complete completing)
  rcases (follows_complete (.forgone forgoes_isPlain) alike.mode.symm
    (opensNone_of_isPlain none right.mode)).exists_ok completing plain with ⟨settled, settling, _⟩
  have ends : ')' ∈ [')', '\n'] := by decide
  rw [← complete_ending ends notNaming] at settling
  rcases complete_closing_of_complete alike skips completing noFault plain settling with
    ⟨item, similar, _⟩
  have allowed : settled.refusal? (some closing) = none := by
    have around := List.isEmpty_eq_false_iff.mpr similar.outer_ne_nil
    simp [refusal?, item, closing, Token.is, around]
  have settles : left.settle (some closing) = .ok settled :=
    settle_eq_ok_iff.mpr ⟨settling, allowed⟩
  have taken : ∃ later, settled.takeSettled closing = .ok later := by
    unfold takeSettled
    rw [item]
    exact ⟨_, rfl⟩
  rcases taken with ⟨later, done⟩
  exact ⟨later, take_eq_ok_iff.mpr ⟨settled, settles, done⟩⟩

/-- The tokens of an expression without groups can be read in a capturing
group up to its closing parenthesis if they set no flags; otherwise the flags
are misplaced. -/
theorem takeAll_placed_closing {begin : Reading} {tokens : List Token} {start : Nat}
    {assembly : Assembly} (between : begin.mode = .item)
    (opened : begin.assembly.frame = .begin (.capture group) start false)
    (around : begin.assembly.outer = enclosing :: outer)
    (alone : (initial.takeAll tokens >>= finish) = .ok assembly)
    (capturesNot : assembly.groupCount = 0) :
    (assembly.flags = {} ∧ ∃ later, begin.takeAll (tokens ++ [closing]) = .ok later) ∨
      assembly.flags ≠ {} ∧ ∃ start,
        begin.takeAll (tokens ++ [closing]) =
          .error (.invalid .misplacedGlobalFlags (some start)) := by
  have plain := isPlain_of_groupCount alone capturesNot
  rcases Except.bind_eq_ok_iff.mp alone with ⟨right, rightDone, ended⟩
  have begunAlike := alike_begun between opened around
  have rightPlain := (becomes_finish ended).isPlain plain
  rcases takeAll_placed begunAlike trivial rightDone rightPlain with
    ⟨left, leftDone⟩ | ⟨flags, start, refused⟩
  · have alike := alike_takeAll isCongruent_embedded begunAlike leftDone rightDone rightPlain
    have begunSkips : initial.SkipsComments := skipsComments_of_ne nofun
    have skips := skipsComments_takeAll begunSkips rightDone
    rcases exists_take_closing alike skips ended plain with ⟨later, closed⟩
    have done : begin.takeAll (tokens ++ [closing]) = .ok later :=
      takeAll_append_eq_ok_iff.mpr
        ⟨left, leftDone, takeAll_cons_eq_ok_iff.mpr ⟨later, closed, rfl⟩⟩
    rcases takeAll_embedded between opened around alone capturesNot done with
      ⟨_, _, _, _, _, _, _, noFlags, _⟩
    exact .inl ⟨noFlags, later, done⟩
  · refine .inr ⟨(becomes_finish ended).flags_ne_none flags, start, ?_⟩
    rw [takeAll_append, refused]
    rfl

end Reading
end Regex
end Stencil

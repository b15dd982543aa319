import Stencil.Proofs.Reading.Counting
import Stencil.Proofs.Reading.Parallel
import Stencil.Proofs.Running.Alternatives

namespace Stencil
namespace Regex

/-!
An expression inside a group.  The tokens of an expression without groups,
read inside a capturing group, give the same items as they give alone: the
group closes where the expression ends, and its body is the tree of the
expression.  Whatever stands around the group, and whatever has been read
before it, leaves no trace in that body.

The main statement is `Reading.takeAll_embedded`.
-/

/-- Groups of the same kind, which neither capture nor depend on what has been
captured. -/
inductive GroupKind.Facing : GroupKind -> GroupKind -> Prop where
  | plain : Facing .plain .plain
  | flagged (change : FlagChange) : Facing (.flagged change) (.flagged change)
  | atomic : Facing .atomic .atomic
  | look (behind negated : Bool) (limit other : Option Nat) :
      Facing (.look behind negated limit) (.look behind negated other)

theorem GroupKind.Facing.left_ne_capture {left right : GroupKind} (facing : Facing left right)
    (group : Nat) : left ≠ .capture group := by
  cases facing <;> exact nofun

/-- Frames with equal branches close to the same items, if their kinds face
each other. -/
theorem Assembly.items_closedPiece {left right : Frame}
    (facing : GroupKind.Facing left.kind right.kind) (same : left.allBranches = right.allBranches) :
    (closedPiece left).items = (closedPiece right).items := by
  obtain ⟨leftKind, _, _, _, _⟩ := left
  obtain ⟨rightKind, _, _, _, _⟩ := right
  dsimp only at facing
  cases facing <;> simp only [closedPiece, items, same]

theorem Assembly.all_isGroupFree_closedPiece {left right : Frame}
    (facing : GroupKind.Facing left.kind right.kind)
    (free : left.allBranches.all (fun branch => branch.all Expr.isGroupFree) = true) :
    (closedPiece left).items.all Expr.isGroupFree = true := by
  have itemsFree : (items left).all Expr.isGroupFree = true :=
    (Expr.isHereditary_isGroupFree.alternatives left.allBranches).trans free
  have bodyFree := (Expr.isHereditary_isGroupFree.sequence _).trans itemsFree
  have alone : ((Expr.sequence (items left)).isGroupFree && true) = true :=
    Bool.and_eq_true_iff.mpr ⟨bodyFree, rfl⟩
  obtain ⟨leftKind, _, _, _, _⟩ := left
  generalize right.kind = rightKind at facing
  dsimp only at facing
  cases facing with
  | plain => exact itemsFree
  | flagged change => exact alone
  | atomic => exact alone
  | look behind negated limit other => exact alone

namespace Comparison

/-- An expression inside a capturing group, with the frames around it and what
was noted when the group was opened, compared with the same expression alone.
What is read is equal on both sides and holds no groups. -/
def embedded (group : Nat) (enclosing : Frame) (outer : List Frame) (begun : Assembly) :
    Comparison where
  similar left right := left = right ∧ left.all Expr.isGroupFree = true
  kinds := GroupKind.Facing
  leftKind := .capture group
  rightKind := .whole
  leftBelow := enclosing :: outer
  rightBelow := []
  keeps left right := begun.SameNotes left ∧ right.flags = {}

variable {group : Nat} {enclosing : Frame} {outer : List Frame} {begun : Assembly}

/-- Branches that are compared so are equal, and free of groups, all of
them. -/
theorem eq_of_forall₂_embedded {left right : List (List Expr)}
    (branches : List.Forall₂ (embedded group enclosing outer begun).similar left right) :
    left = right ∧ left.all (fun branch => branch.all Expr.isGroupFree) = true := by
  induction branches with
  | nil => exact ⟨rfl, rfl⟩
  | cons similar _ inductiveHypothesis =>
      obtain ⟨rfl, free⟩ := similar
      obtain ⟨rfl, othersFree⟩ := inductiveHypothesis
      exact ⟨rfl, Bool.and_eq_true_iff.mpr ⟨free, othersFree⟩⟩

theorem isCongruent_embedded : (embedded group enclosing outer begun).IsCongruent where
  nil := ⟨rfl, rfl⟩
  append := by
    rintro first _ third _ ⟨rfl, firstFree⟩ ⟨rfl, thirdFree⟩
    refine ⟨rfl, ?_⟩
    rw [List.all_append, firstFree, thirdFree, Bool.true_and]
  simple := by
    intro item simple
    refine ⟨rfl, Bool.and_eq_true_iff.mpr ⟨?_, rfl⟩⟩
    cases item <;> first | rfl | cases simple
  repeated := by
    rintro first _ mode low high ⟨rfl, free⟩
    have bodyFree := (Expr.isHereditary_isGroupFree.sequence first).trans free
    exact ⟨rfl, Bool.and_eq_true_iff.mpr ⟨bodyFree, rfl⟩⟩
  closed := by
    intro left right facing branches
    obtain ⟨same, free⟩ := eq_of_forall₂_embedded branches
    exact ⟨Assembly.items_closedPiece facing same,
      Assembly.all_isGroupFree_closedPiece facing free⟩
  plain := .plain
  flagged := .flagged
  atomic := .atomic
  look := .look
  oneBase := .inr rfl
  keepsNotes := by
    rintro left right leftLater rightLater ⟨same, flagless⟩ leftNotes rightNotes
    exact ⟨same.trans leftNotes, rightNotes.flags ▸ flagless⟩
  keepsClose := by
    rintro left right ⟨same, flagless⟩ facing
    exact ⟨same.trans (left.sameNotes_close facing.left_ne_capture), right.flags_close.trans flagless⟩
  keepsFlags := nofun

end Comparison

theorem Mode.Alike.isNaming_eq {left right : Mode} (alike : left.Alike right) :
    left.isNaming = right.isNaming := by
  cases alike with
  | escape _ _ _ _ escape => cases escape <;> rfl
  | _ => rfl

theorem Mode.Alike.between {left right : Mode} (alike : left.Alike right)
    (between : left = .item ∨ left = .lineComment) : right = .item ∨ right = .lineComment := by
  rcases between with rfl | rfl
  · cases alike
    exact .inl rfl
  · cases alike
    exact .inr rfl

/-- The frame at the base, where on the right-hand side nothing is around
it. -/
theorem Comparison.Similar.base_of_outer_eq_nil {comparison : Comparison} {left right : Assembly}
    (similar : comparison.Similar left right) (noneOpen : right.outer = []) :
    comparison.SimilarFrames left.frame right.frame ∧ left.frame.kind = comparison.leftKind ∧
      left.outer = comparison.leftBelow := by
  obtain ⟨verbose, ⟨stacked, _, _, _⟩⟩ := similar
  rw [noneOpen] at stacked
  generalize left.outer = leftOuter at stacked ⊢
  cases stacked with
  | base frames leftKind _ _ leftBelow _ => exact ⟨frames, leftKind, leftBelow⟩
  | push _ _ outer => cases outer

namespace Reading

open Comparison

variable {group : Nat} {enclosing : Frame} {outer : List Frame} {begun : Assembly}

/-- Where the expression is complete alone it is complete before the closing
parenthesis, and no comment is open.  One could be only where flags have been
set, which are those of a group then. -/
theorem complete_closing_of_complete {left right settled completed : Reading}
    (alike : Alike (embedded group enclosing outer begun) left right) (skips : right.SkipsComments)
    (completing : right.complete none = .ok completed) (noFault : completed.endFault? = none)
    (plain : completed.assembly.IsPlain) (settling : left.complete (some closing) = .ok settled) :
    settled.mode = .item ∧
      (embedded group enclosing outer begun).Similar settled.assembly completed.assembly ∧
      completed.assembly.outer = [] := by
  obtain ⟨between, assemblyEnds⟩ := mode_of_endFault? completing noFault
  have notNaming := alike.mode.isNaming_eq.trans (isNaming_of_complete completing)
  rw [closing, complete_ending (by decide) notNaming] at settling
  obtain ⟨modes, similar⟩ := agree_complete isCongruent_embedded alike none _ _ settling completing
    plain
  have noneOpen := outer_of_endFault? assemblyEnds
  have notVerbose : completed.assembly.frame.verbose = false := by
    obtain ⟨verbose, similarAt⟩ := similar
    rw [← similarAt.rightWhole noneOpen, similarAt.keeps.2]
  have isItem : completed.mode = .item := by
    rcases between with item | comment
    · exact item
    · have skipped := skipsComments_complete skips completing comment
      rw [notVerbose] at skipped
      cases skipped
  refine ⟨?_, similar, noneOpen⟩
  rw [isItem] at modes
  generalize settled.mode = mode at modes
  cases modes
  rfl

/-- Inside the group the closing parenthesis is taken between two items, where
alone the expression ends. -/
theorem take_closing_of_finish {left right later : Reading} {assembly : Assembly}
    (alike : Alike (embedded group enclosing outer begun) left right)
    (skips : right.SkipsComments) (ended : right.finish = .ok assembly) (plain : assembly.IsPlain)
    (done : left.take closing = .ok later) :
    ∃ position closed, later = ⟨position, .item, closed.close⟩ ∧
      (embedded group enclosing outer begun).Similar closed assembly ∧ assembly.outer = [] := by
  obtain ⟨settled, settling, taken⟩ := take_eq_ok_iff.mp done
  obtain ⟨settledDone, _⟩ := settle_eq_ok_iff.mp settling
  obtain ⟨completed, completing, noFault, rfl⟩ := finish_eq_ok_iff.mp ended
  obtain ⟨settledItem, similar, noneOpen⟩ :=
    complete_closing_of_complete alike skips completing noFault plain settledDone
  refine ⟨settled.position + closing.length, settled.assembly, ?_, similar, noneOpen⟩
  unfold takeSettled at taken
  rw [settledItem] at taken
  cases taken
  rfl

/-- Where the group has just been opened it is as if nothing has been read
alone. -/
theorem alike_begun {begin : Reading} {start : Nat} (between : begin.mode = .item)
    (opened : begin.assembly.frame = .begin (.capture group) start false)
    (around : begin.assembly.outer = enclosing :: outer) :
    Alike (embedded group enclosing outer begin.assembly) begin initial := by
  refine ⟨between ▸ .item, false, ?_, nofun, fun _ => rfl, .refl _, rfl⟩
  rw [opened, around]
  exact .base ⟨rfl, .nil, .nil⟩ rfl rfl rfl rfl rfl

/-- The tokens of an expression without groups, read in a capturing group and
followed by its closing parenthesis, add that group to what is read around
it. -/
theorem takeAll_embedded {begin later : Reading} {tokens : List Token} {start : Nat}
    {assembly : Assembly} (between : begin.mode = .item)
    (opened : begin.assembly.frame = .begin (.capture group) start false)
    (around : begin.assembly.outer = enclosing :: outer)
    (alone : (initial.takeAll tokens >>= finish) = .ok assembly) (capturesNot : assembly.groupCount = 0)
    (done : begin.takeAll (tokens ++ [closing]) = .ok later) :
    later.mode = .item ∧ later.assembly.outer = outer ∧
      later.assembly.frame = { enclosing with
        pieces := .single (.capture group (Expr.sequence (Assembly.items assembly.frame))) ::
          enclosing.pieces } ∧
      later.assembly.flags = begin.assembly.flags ∧
      later.assembly.groupCount = begin.assembly.groupCount ∧
      later.assembly.names = begin.assembly.names ∧
      later.assembly.conditions = begin.assembly.conditions ∧
      assembly.flags = {} ∧ (Expr.sequence (Assembly.items assembly.frame)).isGroupFree = true := by
  have plain := isPlain_of_groupCount alone capturesNot
  obtain ⟨left, leftDone, closes⟩ := takeAll_append_eq_ok_iff.mp done
  obtain ⟨right, rightDone, ended⟩ := Except.bind_eq_ok_iff.mp alone
  have begunAlike := alike_begun between opened around
  have rightPlain := (becomes_finish ended).isPlain plain
  have alike := alike_takeAll isCongruent_embedded begunAlike leftDone rightDone rightPlain
  have begunSkips : initial.SkipsComments := skipsComments_of_ne nofun
  have skips := skipsComments_takeAll begunSkips rightDone
  obtain ⟨middle, taken, rest⟩ := takeAll_cons_eq_ok_iff.mp closes
  cases rest
  obtain ⟨position, closed, rfl, similar, noneOpen⟩ :=
    take_closing_of_finish alike skips ended plain taken
  obtain ⟨frames, kind, below⟩ := similar.base_of_outer_eq_nil noneOpen
  obtain ⟨same, free⟩ := eq_of_forall₂_embedded (frames.allBranches isCongruent_embedded)
  obtain ⟨_, ⟨_, _, _, notes, noFlags⟩⟩ := similar
  have body : Assembly.items closed.frame = Assembly.items assembly.frame :=
    congrArg Expr.alternatives same
  have piece : Assembly.closedPiece closed.frame =
      .single (.capture group (Expr.sequence (Assembly.items assembly.frame))) := by
    unfold Assembly.closedPiece
    rw [kind, body]
    rfl
  obtain ⟨closedOuter, closedFrame⟩ := Assembly.close_of_outer_eq_cons below
  obtain ⟨groupCount, names, conditions⟩ := closed.notes_close
  refine ⟨rfl, closedOuter, piece ▸ closedFrame, closed.flags_close.trans notes.flags.symm,
    groupCount.trans notes.groupCount.symm, names.trans notes.names.symm,
    conditions.trans notes.conditions.symm, noFlags, ?_⟩
  rw [← body, Expr.isHereditary_isGroupFree.sequence]
  exact (Expr.isHereditary_isGroupFree.alternatives closed.frame.allBranches).trans free

end Reading
end Regex
end Stencil

import Stencil.Proofs.Reading.Texts
import Stencil.Proofs.Running.Alternatives

namespace Stencil
namespace Regex

/-!
Expressions that ask for no captures.  What is read is never dropped, only put
into larger items, so if the finished expression asks nowhere what a group has
captured, then nothing that has been assembled on the way did, and no group
has been opened that depends on a capture.
-/

/-- Nothing in the group asks for captures, and the group does not depend on
one. -/
structure Frame.IsPositional (frame : Frame) : Prop where
  pieces : forall piece, piece ∈ frame.pieces -> piece.items.all Expr.isPositional = true
  branches : forall branch, branch ∈ frame.branches -> branch.all Expr.isPositional = true
  kind : forall group, frame.kind ≠ .conditional group

/-- Nothing that has been read asks for captures, in any of the groups that
are open. -/
def Assembly.IsPositional (assembly : Assembly) : Prop :=
  forall frame, frame ∈ assembly.frame :: assembly.outer -> frame.IsPositional

namespace Assembly

variable {first second : Assembly}

/-- A group whose branches ask for no captures is made of pieces that ask for
none. -/
theorem isPositional_of_allBranches {frame : Frame}
    (all : frame.allBranches.all (fun branch => branch.all Expr.isPositional) = true)
    (kind : forall group, frame.kind ≠ .conditional group) : frame.IsPositional := by
  rw [Frame.allBranches, List.all_reverse, List.all_cons, Bool.and_eq_true] at all
  refine ⟨fun piece member => ?_, List.all_eq_true.mp all.2, kind⟩
  rw [Frame.branch, List.all_flatMap, List.all_reverse] at all
  exact List.all_eq_true.mp all.1 piece member

/-- A group that closes to items that ask for no captures asks for none
itself. -/
theorem isPositional_of_closedPiece {frame : Frame}
    (all : (closedPiece frame).items.all Expr.isPositional = true) : frame.IsPositional := by
  have inside : (items frame).all Expr.isPositional = true ∧
      forall group, frame.kind ≠ .conditional group := by
    have sequence := Expr.isHereditary_isPositional.sequence (items frame)
    unfold closedPiece at all
    dsimp only at all
    cases kind : frame.kind with
    | conditional group =>
        rw [kind] at all
        dsimp only at all
        split at all <;> cases all
    | _ =>
        rw [kind] at all
        refine ⟨?_, nofun⟩
        first
          | exact all
          | exact sequence.symm.trans ((Bool.and_true _).symm.trans all)
  rw [items, Expr.isHereditary_isPositional.alternatives] at inside
  exact isPositional_of_allBranches inside.1 inside.2

/-- A change stays in the group, opens another one in it, or closes it.  For
what the items hold, no more need be known of it. -/
inductive Moves (first second : Assembly) : Prop where
  | stays (outer : second.outer = first.outer) (kind : second.frame.kind = first.frame.kind)
      (positional : second.frame.IsPositional -> first.frame.IsPositional)
  | opens (outer : second.outer = first.frame :: first.outer)
  | closes {enclosing : Frame} {outer : List Frame} (around : first.outer = enclosing :: outer)
      (outerLater : second.outer = outer)
      (frame : second.frame =
        { enclosing with pieces := closedPiece first.frame :: enclosing.pieces })

theorem moves_repeatLast (assembly : Assembly) (mode : RepeatMode) (low : Nat)
    (high : Option Nat) : assembly.Moves (assembly.repeatLast mode low high) := by
  unfold repeatLast
  split
  · exact .stays rfl rfl id
  · rename_i piece rest pieces
    refine .stays rfl rfl fun positional => ⟨fun other member => ?_, positional.branches,
      positional.kind⟩
    rw [pieces] at member
    rcases List.mem_cons.mp member with rfl | later
    · have repeated := positional.pieces _ List.mem_cons_self
      rw [Piece.items, List.all_cons, List.all_nil, Bool.and_true] at repeated
      exact (Expr.isHereditary_isPositional.sequence other.items).symm.trans repeated
    · exact positional.pieces other (List.mem_cons_of_mem _ later)

theorem moves_close (assembly : Assembly) : assembly.Moves assembly.close := by
  cases around : assembly.outer with
  | nil =>
      unfold close
      rw [around]
      exact .stays rfl rfl id
  | cons enclosing outer =>
      rcases close_of_outer_eq_cons around with ⟨closedOuter, closedFrame⟩
      exact .closes around closedOuter closedFrame

theorem Changes.moves (changes : first.Changes second) : first.Moves second := by
  cases changes with
  | push item =>
      exact .stays rfl rfl fun positional =>
        ⟨fun piece member => positional.pieces piece (List.mem_cons_of_mem _ member),
          positional.branches, positional.kind⟩
  | repeatLast mode low high => exact moves_repeatLast _ _ _ _
  | openGroup start verbose _ => exact .opens rfl
  | openCapture done =>
      rcases openCapture_eq_ok done with rfl
      exact .opens rfl
  | openLook behind negated start =>
      unfold Assembly.openLook
      dsimp only
      split <;> exact .opens rfl
  | noteCondition position _ =>
      unfold Assembly.noteCondition
      split <;> exact .stays rfl rfl id
  | nextBranch =>
      refine .stays rfl rfl fun positional => ?_
      apply isPositional_of_allBranches
      · rw [Frame.allBranches, List.all_reverse]
        exact List.all_eq_true.mpr positional.branches
      · exact positional.kind
  | close => exact moves_close _
  | setFlags added =>
      exact .stays rfl rfl fun positional =>
        ⟨positional.pieces, positional.branches, positional.kind⟩

/-- What asks for no captures in the end has asked for none before, since
closing a group loses nothing of it. -/
theorem Moves.isPositional (moves : first.Moves second) (positional : second.IsPositional) :
    first.IsPositional := by
  have outside := fun frame member => positional frame (List.mem_cons_of_mem _ member)
  have inside := positional second.frame List.mem_cons_self
  cases moves with
  | stays outer kind keeps =>
      rw [outer] at outside
      exact List.forall_mem_cons.mpr ⟨keeps inside, outside⟩
  | opens outer =>
      rw [outer] at outside
      exact outside
  | closes around outerLater frame =>
      rw [outerLater] at outside
      rw [frame] at inside
      refine List.forall_mem_cons.mpr ⟨?_, ?_⟩
      · exact isPositional_of_closedPiece (inside.pieces _ List.mem_cons_self)
      · rw [around]
        exact List.forall_mem_cons.mpr
          ⟨⟨fun piece member => inside.pieces piece (List.mem_cons_of_mem _ member), inside.branches,
            inside.kind⟩, outside⟩

theorem Becomes.isPositional (becomes : first.Becomes second) (positional : second.IsPositional) :
    first.IsPositional := by
  induction becomes with
  | refl => exact positional
  | tail _ last inductiveHypothesis => exact inductiveHypothesis (last.moves.isPositional positional)

def outermost (assembly : Assembly) : Option GroupKind :=
  ((assembly.frame :: assembly.outer).map Frame.kind).getLast?

theorem Moves.outermost_eq (moves : first.Moves second) : second.outermost = first.outermost := by
  unfold outermost
  cases moves with
  | stays outer kind _ => rw [outer, List.map_cons, List.map_cons, kind]
  | opens outer =>
      rw [outer]
      exact List.getLast?_cons_cons
  | closes around outerLater frame =>
      rw [outerLater, frame, around]
      exact List.getLast?_cons_cons.symm

theorem Becomes.outermost_eq (becomes : first.Becomes second) :
    second.outermost = first.outermost := by
  induction becomes with
  | refl => rfl
  | tail _ last inductiveHypothesis => exact last.moves.outermost_eq.trans inductiveHypothesis

/-- What asks for no captures where the expression ends has been assembled
from such items. -/
theorem isPositional_of_endFault? {assembly : Assembly} (begun : initial.Becomes assembly)
    (noFault : assembly.endFault? = none)
    (positional : (Expr.sequence (items assembly.frame)).isPositional = true) :
    assembly.IsPositional := by
  have noneOpen := Reading.outer_of_endFault? noFault
  have whole : some assembly.frame.kind = some .whole := by
    have outermost := begun.outermost_eq
    unfold Assembly.outermost at outermost
    rw [noneOpen] at outermost
    exact outermost
  intro frame member
  rw [noneOpen, List.mem_singleton] at member
  subst member
  rw [Expr.isHereditary_isPositional.sequence, items,
    Expr.isHereditary_isPositional.alternatives] at positional
  apply isPositional_of_allBranches positional
  rw [Option.some.inj whole]
  exact nofun

/-! ## What asks for captures -/

/-- A reference asks for what its group has captured, and this cannot be
undone. -/
theorem not_isPositional_of_refer {group start stop : Nat}
    (done : first.refer group start stop = .ok second) : ¬ second.IsPositional := by
  intro positional
  unfold refer at done
  split at done
  · cases done
  · cases done
  · cases done
    have referring := (positional _ List.mem_cons_self).pieces _ List.mem_cons_self
    cases referring

end Assembly

namespace Reading

variable {reading later : Reading}

theorem takeMeaning_reference_isPositional_false {group start : Nat}
    (done : reading.takeMeaning (.reference group) start = .ok later)
    (positional : later.assembly.IsPositional) : False := by
  simp only [takeMeaning] at done
  split at done
  · cases done
  · rcases Except.map_eq_ok_iff.mp done with ⟨_, referred, rfl⟩
    exact Assembly.not_isPositional_of_refer referred positional

theorem takeOpened_reference_isPositional_false {start : Nat} {name : Name}
    (done : reading.takeOpened start (.reference name) = .ok later)
    (positional : later.assembly.IsPositional) : False := by
  simp only [takeOpened] at done
  split at done
  · cases done
  · rcases Except.map_eq_ok_iff.mp done with ⟨_, referred, rfl⟩
    exact Assembly.not_isPositional_of_refer referred positional

theorem takeOpened_conditional_isPositional_false {start : Nat} {name : Name}
    (done : reading.takeOpened start (.conditional name) = .ok later)
    (positional : later.assembly.IsPositional) : False := by
  rcases takeOpened_conditional_eq_ok done with ⟨group, noting, _, rfl⟩
  exact (positional _ List.mem_cons_self).kind group rfl

end Reading
end Regex
end Stencil

import Stencil.Proofs.Isolation.Resemblance
import Stencil.Proofs.Reading.Pairing

namespace Stencil
namespace Regex

/-!
An expression in a group for its flags.  The same tokens, read where flags are
set for the whole and read in a group that sets these flags, give the same
items: groups that capture have the same numbers and names on both sides, so
that references and conditions mean the same.

The main statement is `Assembly.isKept_regrouped`.
-/

open Except (Agree)

/-- Groups of the same kind.  Only how far back a look-behind may refer is
left open, since that depends on the groups around it. -/
inductive GroupKind.Same : GroupKind -> GroupKind -> Prop where
  | refl (kind : GroupKind) : Same kind kind
  | look (behind negated : Bool) (limit other : Option Nat) :
      Same (.look behind negated limit) (.look behind negated other)

/-- Groups of the same kind close to the same piece if they have the same
branches. -/
theorem Assembly.closedPiece_congr {left right : Frame} (kinds : left.kind.Same right.kind)
    (same : left.allBranches = right.allBranches) : closedPiece left = closedPiece right := by
  have branch : left.branch = right.branch :=
    (List.cons.inj (List.reverse_injective same)).1
  rcases left with ⟨leftKind, _, _, _, _⟩
  rcases right with ⟨rightKind, _, _, _, _⟩
  dsimp only at kinds
  cases kinds with
  | refl _ =>
      cases leftKind with
      | conditional group => simp only [closedPiece, same, branch]
      | _ => simp only [closedPiece, items, same]
  | look behind negated limit other => simp only [closedPiece, items, same]

namespace Comparison

/-- An expression for which flags are set as a whole, compared with the same
one in a group that sets these flags. -/
def regrouped (flags : Flags) : Comparison where
  similar := Eq
  kinds := GroupKind.Same
  leftKind := .whole
  rightKind := .flagged ⟨flags, {}⟩
  leftBelow := []
  rightBelow := [.begin .whole 0 false]
  keeps left right := left.flags = flags ∧ right.flags = {}

variable {flags : Flags} {left right : Assembly}

theorem isCongruent_regrouped : (regrouped flags).IsCongruent where
  nil := rfl
  append := by
    rintro first _ third _ rfl rfl
    rfl
  simple _ := rfl
  repeated := by
    rintro first _ mode low high rfl
    rfl
  closed := by
    intro left right kinds branches
    rw [Assembly.closedPiece_congr kinds (List.forall₂_eq_eq_eq ▸ branches)]
    rfl
  plain := .refl _
  flagged _ := .refl _
  atomic := .refl _
  look := .look
  oneBase := .inl rfl
  keepsNotes := by
    rintro left right leftLater rightLater ⟨leftFlags, rightFlags⟩ leftNotes rightNotes
    exact ⟨leftNotes.flags ▸ leftFlags, rightNotes.flags ▸ rightFlags⟩
  keepsClose := by
    rintro left right ⟨leftFlags, rightFlags⟩ _
    exact ⟨left.flags_close.trans leftFlags, right.flags_close.trans rightFlags⟩
  keepsFlags := nofun

/-- Inside a group that can be closed the frames are similar and of the same
kind. -/
theorem Similar.innermost (similar : (regrouped flags).Similar left right)
    (inside : left.outer ≠ []) :
    left.frame.kind.Same right.frame.kind ∧ left.frame.allBranches = right.frame.allBranches := by
  rcases similar with ⟨verbose, stacked, _, _, _⟩
  cases stacked with
  | base _ _ _ _ leftBelow _ => exact absurd leftBelow inside
  | push frames kinds _ =>
      have branches := frames.allBranches isCongruent_regrouped
      exact ⟨kinds, List.forall₂_eq_eq_eq ▸ branches⟩

end Comparison

open Comparison (regrouped isCongruent_regrouped)

namespace Assembly

/-- The same has been noted about groups that capture: how many there are,
which of them have names, and how wide those are that have been closed. -/
structure SameGroups (left right : Assembly) : Prop where
  groupCount : left.groupCount = right.groupCount
  names : left.names = right.names
  widths : left.widths = right.widths

theorem SameGroups.congr {left right leftLater rightLater : Assembly} (same : left.SameGroups right)
    (leftNotes : left.SameNotes leftLater) (rightNotes : right.SameNotes rightLater) :
    leftLater.SameGroups rightLater where
  groupCount := by rw [← leftNotes.groupCount, ← rightNotes.groupCount, same.groupCount]
  names := by rw [← leftNotes.names, ← rightNotes.names, same.names]
  widths := by rw [← leftNotes.widths, ← rightNotes.widths, same.widths]

/-- Closing a group notes the width of what it captures, if it captures, and
nothing otherwise. -/
theorem widths_close_eq {assembly : Assembly} (inside : assembly.outer ≠ []) :
    assembly.close.widths = match assembly.frame.kind with
      | .capture group => (group, (Expr.sequence (items assembly.frame)).width) :: assembly.widths
      | _ => assembly.widths := by
  unfold close
  split
  · rename_i outermost
    exact absurd outermost inside
  · dsimp only
    generalize assembly.frame.kind = kind
    cases kind <;> rfl

/-- The two sides are the same but for the group on the right.  Unlike in
`Similar`, the groups that capture are there on both sides. -/
structure Regrouped (flags : Flags) (left right : Assembly) : Prop where
  similar : (regrouped flags).Similar left right
  groups : left.SameGroups right

variable {flags : Flags} {left right : Assembly}

theorem Regrouped.close (holds : Regrouped flags left right) (leftOuter : left.outer ≠ [])
    (rightOuter : right.outer ≠ []) : Regrouped flags left.close right.close := by
  refine ⟨holds.similar.close isCongruent_regrouped leftOuter rightOuter, ?_⟩
  rcases holds.similar.innermost leftOuter with ⟨kinds, branches⟩
  rcases left.notes_close with ⟨leftCount, leftNames, _⟩
  rcases right.notes_close with ⟨rightCount, rightNames, _⟩
  refine ⟨?_, ?_, ?_⟩
  · rw [leftCount, rightCount, holds.groups.groupCount]
  · rw [leftNames, rightNames, holds.groups.names]
  · rw [widths_close_eq leftOuter, widths_close_eq rightOuter, holds.groups.widths]
    unfold items
    rw [branches]
    generalize left.frame.kind = leftKind at kinds
    generalize right.frame.kind = rightKind at kinds
    cases kinds with
    | refl kind => rfl
    | look behind negated limit other => rfl

theorem Regrouped.openCapture (holds : Regrouped flags left right) {leftOpened rightOpened : Assembly}
    {name : Option String} {start other : Nat} (leftDone : left.openCapture name start = .ok leftOpened)
    (rightDone : right.openCapture name other = .ok rightOpened) :
    Regrouped flags leftOpened rightOpened := by
  have verbose := holds.similar.verbose
  rcases holds with ⟨⟨base, stacked, leftWhole, _, leftFlags, rightFlags⟩, groups⟩
  rcases openCapture_eq_ok leftDone with rfl
  rcases openCapture_eq_ok rightDone with rfl
  refine ⟨⟨base, ?_, leftWhole, nofun, leftFlags, rightFlags⟩, ?_, ?_, groups.widths⟩
  · dsimp only
    rw [groups.groupCount]
    exact .push ⟨verbose, .nil, .nil⟩ (.refl _) stacked
  · exact congrArg (· + 1) groups.groupCount
  · dsimp only
    rw [groups.groupCount, groups.names]

/-- A reference is to a group that has been closed, and as wide as that
group. -/
theorem refer_eq_ok {assembly referring : Assembly} {group start stop : Nat}
    (done : assembly.refer group start stop = .ok referring) :
    ∃ width, assembly.widths.lookup group = some width ∧
      referring = assembly.push (.reference group width) := by
  unfold refer at done
  split at done
  · cases done
  · cases done
  · rename_i width found _
    cases done
    exact ⟨width, found, rfl⟩

theorem Regrouped.refer (holds : Regrouped flags left right) {leftReferring rightReferring : Assembly}
    {group start stop other otherStop : Nat}
    (leftDone : left.refer group start stop = .ok leftReferring)
    (rightDone : right.refer group other otherStop = .ok rightReferring) :
    Regrouped flags leftReferring rightReferring := by
  rcases refer_eq_ok leftDone with ⟨width, leftFound, rfl⟩
  rcases refer_eq_ok rightDone with ⟨otherWidth, rightFound, rfl⟩
  rw [holds.groups.widths] at leftFound
  cases leftFound.symm.trans rightFound
  exact ⟨holds.similar.pushItem isCongruent_regrouped rfl,
    holds.groups.congr (left.sameNotes_push _) (right.sameNotes_push _)⟩

theorem noteCondition_eq (assembly : Assembly) (group position : Nat) :
    ∃ conditions, assembly.noteCondition group position = { assembly with conditions } := by
  unfold noteCondition
  split
  · exact ⟨assembly.conditions, rfl⟩
  · exact ⟨_, rfl⟩

end Assembly

namespace Reading

/-- What a condition names leaves a note at most; the items that have been
read stay as they are. -/
theorem exists_conditions_of_conditionGroup {assembly noting : Assembly} {name : Name} {group : Nat}
    (done : conditionGroup assembly name = .ok (group, noting)) :
    ∃ conditions, noting = { assembly with conditions } := by
  rcases conditionGroup_eq_ok done with ⟨_, rfl⟩ | ⟨_, rfl⟩
  · exact ⟨_, rfl⟩
  · exact Assembly.noteCondition_eq _ _ _

/-- The name of a condition stands for the same group where the same groups
have names. -/
theorem conditionGroup_congr {left right leftNoting rightNoting : Assembly} {characters : List Char}
    {position other group otherGroup : Nat} (names : left.names = right.names)
    (leftDone : conditionGroup left ⟨characters, position⟩ = .ok (group, leftNoting))
    (rightDone : conditionGroup right ⟨characters, other⟩ = .ok (otherGroup, rightNoting)) :
    group = otherGroup := by
  unfold conditionGroup Name.text at leftDone rightDone
  rw [names] at leftDone
  dsimp only at leftDone rightDone
  split at leftDone
  · rename_i identifier
    rw [if_pos identifier] at rightDone
    split at leftDone
    · rename_i found
      rw [found] at rightDone
      cases leftDone
      cases rightDone
      rfl
    · cases leftDone
  · rename_i identifierNot
    rw [if_neg identifierNot] at rightDone
    split at leftDone
    · cases leftDone
    · rename_i numeral read
      rw [read] at rightDone
      dsimp only at rightDone
      split at leftDone
      · cases leftDone
      · rename_i readable
        rw [if_neg readable] at rightDone
        split at leftDone
        · cases leftDone
        · rename_i notZero
          rw [if_neg notZero] at rightDone
          split at leftDone
          · cases leftDone
          · rename_i notTooMany
            rw [if_neg notTooMany] at rightDone
            cases leftDone
            cases rightDone
            rfl

end Reading

namespace Assembly

variable {flags : Flags} {left right : Assembly}

theorem Regrouped.openConditional (holds : Regrouped flags left right)
    {leftNoting rightNoting : Assembly} {characters : List Char}
    {position otherPosition group otherGroup : Nat} (start other : Nat) (verbose : Bool)
    (leftNamed : Reading.conditionGroup left ⟨characters, position⟩ = .ok (group, leftNoting))
    (rightNamed : Reading.conditionGroup right ⟨characters, otherPosition⟩ =
      .ok (otherGroup, rightNoting)) :
    Regrouped flags (leftNoting.openGroup (.conditional group) start verbose)
      (rightNoting.openGroup (.conditional otherGroup) other verbose) := by
  cases Reading.conditionGroup_congr holds.groups.names leftNamed rightNamed
  rcases Reading.exists_conditions_of_conditionGroup leftNamed with ⟨leftConditions, rfl⟩
  rcases Reading.exists_conditions_of_conditionGroup rightNamed with ⟨rightConditions, rfl⟩
  rcases holds with ⟨⟨base, stacked, leftWhole, rightWhole, keeps⟩, groups⟩
  refine ⟨⟨base, ?_, leftWhole, rightWhole, keeps⟩, groups.groupCount, groups.names, groups.widths⟩
  exact .push ⟨rfl, .nil, .nil⟩ (.refl _) stacked

/-- Whatever is read on both sides, they stay the same but for the group on
the right. -/
theorem isKept_regrouped (flags : Flags) : IsKept (fun _ => True) (Regrouped flags) where
  before _ _ := trivial
  verbose holds := holds.similar.verbose
  push := by
    intro left right item holds simple
    exact ⟨holds.similar.push isCongruent_regrouped simple,
      holds.groups.congr (left.sameNotes_push _) (right.sameNotes_push _)⟩
  repeatLast := by
    intro left right mode low high holds
    exact ⟨holds.similar.repeatLast isCongruent_regrouped _ _ _,
      holds.groups.congr (left.sameNotes_repeatLast _ _ _) (right.sameNotes_repeatLast _ _ _)⟩
  nextBranch := by
    intro left right holds
    exact ⟨holds.similar.nextBranch isCongruent_regrouped,
      holds.groups.congr left.sameNotes_nextBranch right.sameNotes_nextBranch⟩
  openGroup := by
    intro left right kind start other verbose holds _
    exact ⟨holds.similar.openGroup isCongruent_regrouped (.refl kind) start other verbose,
      holds.groups.congr (left.sameNotes_openGroup _ _ _) (right.sameNotes_openGroup _ _ _)⟩
  openLook := by
    intro left right behind negated start other holds
    exact ⟨holds.similar.openLook isCongruent_regrouped behind negated start other,
      holds.groups.congr (left.sameNotes_openLook _ _ _) (right.sameNotes_openLook _ _ _)⟩
  close := Regrouped.close
  setFlags := by
    intro left right added holds leftStart rightStart
    exact ⟨holds.similar.setFlags isCongruent_regrouped added leftStart rightStart,
      holds.groups.groupCount, holds.groups.names, holds.groups.widths⟩
  openCapture _ _ _ holds := fun _ _ leftDone rightDone _ => holds.openCapture leftDone rightDone
  refer _ _ _ _ _ holds := fun _ _ leftDone rightDone _ => holds.refer leftDone rightDone
  named := by
    intro left right name group other holds _ leftFound rightFound
    rw [holds.groups.names] at leftFound
    exact Option.some.inj (leftFound.symm.trans rightFound)
  openConditional start other verbose holds leftNamed rightNamed _ :=
    holds.openConditional start other verbose leftNamed rightNamed

end Assembly
end Regex
end Stencil

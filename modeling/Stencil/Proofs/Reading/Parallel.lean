import Stencil.Proofs.Reading.Pairing

namespace Stencil
namespace Regex
namespace Reading

/-!
Taking the same tokens where one side has no groups.  Readings that are in the
middle of the same thing, and have assembled what is similar, stay so with
every token, provided that both sides take it and that the right-hand side
notes nothing about groups: similarity is kept by all that reading does then.
The main statements are `alike_take` for one token and `alike_takeAll` for
several.
-/

open Assembly (IsKept)
open Except (Agree)

/-- The readings are in the middle of the same thing and have assembled what
is similar. -/
structure Alike (comparison : Comparison) (left right : Reading) : Prop where
  mode : left.mode.Alike right.mode
  assembly : comparison.Similar left.assembly right.assembly

/-- The readings are alike, should the right-hand one be plain.  Once a group
captures there, nothing more is said. -/
def AlikeIfPlain (comparison : Comparison) (left right : Reading) : Prop :=
  right.assembly.IsPlain -> Alike comparison left right

variable {comparison : Comparison} {left right : Reading}

theorem Alike.paired (alike : Alike comparison left right) : Paired comparison.Similar left right :=
  ⟨alike.mode, alike.assembly⟩

theorem takeMeaning_reference_ne_ok {later : Reading} {group start : Nat}
    (plain : right.assembly.IsPlain)
    (done : right.takeMeaning (.reference group) start = .ok later) : False := by
  simp only [takeMeaning] at done
  split at done
  · cases done
  · obtain ⟨_, referred, _⟩ := Except.map_eq_ok_iff.mp done
    exact absurd referred (Assembly.refer_ne_ok plain _ _ _)

theorem takeMeaning_reference_isPlain_false {later : Reading} {group start : Nat}
    (done : right.takeMeaning (.reference group) start = .ok later)
    (plain : later.assembly.IsPlain) : False :=
  takeMeaning_reference_ne_ok ((becomes_takeMeaning done).isPlain plain) done

/-- In a plain assembly no condition names a group. -/
theorem conditionGroup_isPlain_false {assembly noting : Assembly} {name : Name} {group : Nat}
    (done : conditionGroup assembly name = .ok (group, noting)) (plain : noting.IsPlain) :
    False := by
  rcases conditionGroup_eq_ok done with ⟨found, rfl⟩ | ⟨_, rfl⟩
  · rw [plain.names] at found
    cases found
  · exact Assembly.conditions_noteCondition_ne_nil _ _ _ plain.conditions

theorem takeOpened_conditional_isPlain_false {later : Reading} {start : Nat} {name : Name}
    (done : right.takeOpened start (.conditional name) = .ok later)
    (plain : later.assembly.IsPlain) : False := by
  obtain ⟨group, noting, named, rfl⟩ := takeOpened_conditional_eq_ok done
  exact conditionGroup_isPlain_false named ((noting.sameNotes_openGroup _ _ _).grows.isPlain plain)

theorem takeOpened_reference_isPlain_false {later : Reading} {start : Nat} {name : Name}
    (done : right.takeOpened start (.reference name) = .ok later)
    (plain : later.assembly.IsPlain) : False := by
  have before := (becomes_takeOpened done).isPlain plain
  simp only [takeOpened, before.names, List.lookup_nil] at done
  cases done

/-- Nothing that captures leaves an assembly plain, so a group that does is
never compared. -/
theorem openCapture_isPlain_false {assembly opened : Assembly} {name : Option String} {start : Nat}
    (done : assembly.openCapture name start = .ok opened) (plain : opened.IsPlain) : False := by
  have counted := (Assembly.grows_openCapture done).2
  have uncounted : opened.groupCount = 0 := plain.groupCount
  omega

theorem takeOpened_capture_isPlain_false {later : Reading} {start : Nat} {name : Option Name}
    (done : right.takeOpened start (.capture name) = .ok later)
    (plain : later.assembly.IsPlain) : False := by
  simp only [takeOpened] at done
  split at done
  · rename_i assembly opened
    cases done
    exact openCapture_isPlain_false opened plain
  · cases done

/-- Similarity is kept by all that reading does while the right-hand side
stays plain. -/
theorem isKept_similar (congruent : comparison.IsCongruent) :
    IsKept Assembly.IsPlain comparison.Similar where
  before := Assembly.Becomes.isPlain
  verbose := Comparison.Similar.verbose
  push similar simple := similar.push congruent simple
  repeatLast mode low high similar := similar.repeatLast congruent mode low high
  nextBranch similar := similar.nextBranch congruent
  openGroup := by
    intro left right kind start other verbose similar quiet
    have kinds : comparison.kinds kind kind := by
      cases kind with
      | plain => exact congruent.plain
      | flagged change => exact congruent.flagged change
      | atomic => exact congruent.atomic
      | _ => cases quiet
    exact similar.openGroup congruent kinds start other verbose
  openLook behind negated start other similar :=
    similar.openLook congruent behind negated start other
  close similar leftOuter rightOuter := similar.close congruent leftOuter rightOuter
  setFlags added similar leftStart rightStart :=
    similar.setFlags congruent added leftStart rightStart
  openCapture _ _ _ _ := fun _ _ _ done plain => (openCapture_isPlain_false done plain).elim
  refer _ _ _ _ _ _ := fun _ _ _ done plain =>
    absurd done (Assembly.refer_ne_ok ((Assembly.becomes_refer done).isPlain plain) _ _ _)
  named := by
    intro left right name group other _ plain _ found
    rw [plain.names] at found
    cases found
  openConditional _ _ _ _ _ named plain := (conditionGroup_isPlain_false named plain).elim

theorem agree_complete (congruent : comparison.IsCongruent) (alike : Alike comparison left right)
    (next : Option Token) :
    Agree (AlikeIfPlain comparison) (left.complete next) (right.complete next) := by
  intro leftLater rightLater leftDone rightDone plain
  rcases alike.paired.agree_complete (isKept_similar congruent) next _ _ leftDone rightDone with
    ⟨modes, similar⟩
  exact ⟨modes, similar plain⟩

/-- Readings that are alike stay so with a token that both take, if the
right-hand side is plain behind it. -/
theorem alike_take (congruent : comparison.IsCongruent) (alike : Alike comparison left right)
    {token : Token} {leftLater rightLater : Reading} (leftDone : left.take token = .ok leftLater)
    (rightDone : right.take token = .ok rightLater) (plain : rightLater.assembly.IsPlain) :
    Alike comparison leftLater rightLater := by
  have paired := paired_take (isKept_similar congruent) alike.paired leftDone rightDone plain
  exact ⟨paired.mode, paired.assembly⟩

/-- Readings that are alike stay so with all tokens that both take. -/
theorem alike_takeAll (congruent : comparison.IsCongruent) (alike : Alike comparison left right)
    {tokens : List Token} {leftLater rightLater : Reading}
    (leftDone : left.takeAll tokens = .ok leftLater)
    (rightDone : right.takeAll tokens = .ok rightLater) (plain : rightLater.assembly.IsPlain) :
    Alike comparison leftLater rightLater := by
  have paired := paired_takeAll (isKept_similar congruent) alike.paired leftDone rightDone plain
  exact ⟨paired.mode, paired.assembly⟩

end Reading
end Regex
end Stencil

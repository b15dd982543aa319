import Stencil.Proofs.Reading.Quotation

namespace Stencil
namespace Regex

/-!
Faults that are no mistakes.  An expression is refused for its flags, for what
it counts and for a code point, but for nothing that may stand after an
opening parenthesis: there, every fault says what is wrong.
-/

variable {First Second : Type}

/-- The reading has met something invalid, as opposed to a limit. -/
def IsInvalid (outcome : Except Fault First) : Prop :=
  ∃ problem position, outcome = .error (.invalid problem position)

/-- No limit has been met.  The outcome may be a success or something
invalid. -/
def Unrefused (outcome : Except Fault First) : Prop :=
  forall limit, outcome ≠ .error (.refused limit)

theorem unrefused_iff {outcome : Except Fault First} :
    Unrefused outcome ↔ (∃ value, outcome = .ok value) ∨ IsInvalid outcome := by
  constructor
  · intro unrefused
    rcases outcome with (⟨problem, position⟩ | limit) | value
    · exact .inr ⟨problem, position, rfl⟩
    · exact absurd rfl (unrefused limit)
    · exact .inl ⟨value, rfl⟩
  · rintro (⟨value, rfl⟩ | ⟨problem, position, rfl⟩) <;> exact nofun

namespace Unrefused

theorem ok {value : First} : Unrefused (.ok value) :=
  nofun

theorem invalid {problem : Problem} {position : Option Nat} :
    Unrefused (.error (.invalid problem position) : Except Fault First) :=
  nofun

theorem ite {condition : Prop} [Decidable condition] {outcome other : Except Fault First}
    (positive : Unrefused outcome) (negative : Unrefused other) :
    Unrefused (if condition then outcome else other) := by
  split
  · exact positive
  · exact negative

theorem map {outcome : Except Fault First} {convert : First -> Second}
    (unrefused : Unrefused outcome) : Unrefused (outcome.map convert) := by
  rcases unrefused_iff.mp unrefused with ⟨value, rfl⟩ | ⟨problem, position, rfl⟩ <;> exact nofun

theorem bind {outcome : Except Fault First} {next : First -> Except Fault Second}
    (unrefused : Unrefused outcome) (after : forall value, Unrefused (next value)) :
    Unrefused (outcome >>= next) := by
  rcases unrefused_iff.mp unrefused with ⟨value, rfl⟩ | ⟨problem, position, rfl⟩
  · exact after value
  · exact nofun

end Unrefused

namespace Opening

theorem unrefused_turnOn (added : Flags) (letter : Char) (stop : Nat) :
    Unrefused (turnOn added letter stop) := by
  unfold turnOn
  split
  · exact .invalid
  · exact .ite .invalid .ok

theorem unrefused_turnOff (removed : Flags) (letter : Char) (stop : Nat) :
    Unrefused (turnOff removed letter stop) := by
  unfold turnOff
  split
  · exact .invalid
  · exact .ite .invalid .ok

theorem unrefused_endName (characters : List Char) (stop : Nat) :
    Unrefused (endName characters stop) :=
  .ite .invalid .ok

theorem unrefused_endIdentifier (characters : List Char) (stop : Nat) :
    Unrefused (endIdentifier characters stop) :=
  .bind (unrefused_endName characters stop) fun _ => .ite .ok .invalid

theorem unrefused_take (opening : Opening) (token : Token) (stop : Nat) :
    Unrefused (opening.take token stop) := by
  cases opening with
  | parenthesis => exact .ok
  | question =>
      refine .ite .ok (.ite .ok (.ite .ok (.ite .ok (.ite .ok (.ite .ok ?_)))))
      exact .ite .ok (.ite .ok (.ite .ok (.ite (.map (unrefused_turnOn _ _ _)) .invalid)))
  | extension => exact .ite .ok (.ite .ok .invalid)
  | groupName characters => exact .ite (.map (unrefused_endIdentifier _ _)) .ok
  | referenceName characters => exact .ite (.map (unrefused_endIdentifier _ _)) .ok
  | conditionName characters => exact .ite (.map (unrefused_endName _ _)) .ok
  | angle => exact .ite .ok (.ite .ok .invalid)
  | flagsOn added =>
      refine .ite .ok (.ite ?_ (.ite (.map (unrefused_turnOn _ _ _)) .invalid))
      exact .ite .invalid (.ite .ok .ok)
  | flagsOff added removed begun =>
      refine .ite ?_ (.ite (.map (unrefused_turnOff _ _ _)) .invalid)
      exact .ite .invalid (.ite .invalid .ok)

theorem unrefused_endFault (opening : Opening) (stop : Nat) :
    Unrefused (.error (opening.endFault stop) : Except Fault First) := by
  have name : forall (characters : List Char) (terminator : Char),
      Unrefused (.error (unfinishedName characters terminator stop) : Except Fault First) := by
    intro characters terminator
    unfold unfinishedName
    split <;> exact .invalid
  cases opening with
  | groupName characters => exact name _ _
  | referenceName characters => exact name _ _
  | conditionName characters => exact name _ _
  | _ => exact .invalid

end Opening

namespace Reading

theorem unrefused_refer (assembly : Assembly) (group start stop : Nat) :
    Unrefused (assembly.refer group start stop) := by
  unfold Assembly.refer
  split
  · exact .invalid
  · exact .invalid
  · exact .ok

theorem unrefused_conditionGroup (assembly : Assembly) (name : Name) :
    Unrefused (conditionGroup assembly name) := by
  unfold conditionGroup
  dsimp only
  split
  · split
    · exact .ok
    · exact .invalid
  · split
    · exact .invalid
    · exact .ite .invalid (.ite .invalid (.ite .invalid .ok))

theorem unrefused_takeOpened (reading : Reading) (start : Nat) (opened : Opened) :
    Unrefused (reading.takeOpened start opened) := by
  cases opened with
  | capture name =>
      unfold takeOpened
      dsimp only
      split
      · exact .ok
      · exact .invalid
  | conditional name =>
      refine .bind (unrefused_conditionGroup _ name) ?_
      rintro ⟨group, noting⟩
      dsimp only
      split
      · exact .invalid
      · exact .ok
  | flags added => exact .ite .ok .invalid
  | reference name =>
      unfold takeOpened
      dsimp only
      split
      · exact .invalid
      · exact .map (unrefused_refer _ _ _ _)
  | _ => exact .ok

theorem unrefused_take_opening {position start : Nat} {opening : Opening} {assembly : Assembly}
    {token : Token} (goesOn : opening.goesOn token = true) :
    Unrefused (take ⟨position, .opening start opening, assembly⟩ token) := by
  rw [take_opening goesOn]
  refine .bind (opening.unrefused_take token _) fun outcome => ?_
  cases outcome with
  | inl further => exact .ok
  | inr opened => exact unrefused_takeOpened _ _ _

end Reading
end Regex
end Stencil

import Stencil.Proofs.Reading.Comments

namespace Stencil
namespace Regex

/-- Whether a character's name is being read in an escape.  Such a name takes
a closing parenthesis in. -/
def Mode.isNaming : Mode -> Bool
  | .escape _ _ _ (.name _) => true
  | _ => false

namespace Reading

/-!
Where an expression may end.  It may end between two items, and in a comment
to the end of the line, which is only read where comments are skipped.
Whatever else is being read is either complete before the end, and then before
a closing parenthesis too, or it is a fault.
-/

variable {reading later : Reading}

theorem finish_eq_ok_iff {assembly : Assembly} :
    reading.finish = .ok assembly ↔
      ∃ completed, reading.complete none = .ok completed ∧ completed.endFault? = none ∧
        completed.assembly = assembly := by
  have allowed : forall completed : Reading, completed.refusal? none = none := by
    intro completed
    unfold refusal?
    split <;> trivial
  unfold finish
  rw [Except.bind_eq_ok_iff]
  constructor
  · rintro ⟨settled, settling, rest⟩
    split at rest
    · cases rest
    · rename_i noFault
      cases rest
      exact ⟨settled, (settle_eq_ok_iff.mp settling).1, noFault, rfl⟩
  · rintro ⟨completed, completing, noFault, rfl⟩
    refine ⟨completed, settle_eq_ok_iff.mpr ⟨completing, allowed completed⟩, ?_⟩
    rw [noFault]
    rfl

/-- Where no group is open, the flags choose one kind of character classes at
most and no conditions have been noted, an expression may end. -/
theorem endFault?_eq_none {assembly : Assembly} (noneOpen : assembly.outer = [])
    (oneClass : (assembly.flags.ascii && assembly.flags.unicode) = false)
    (conditions : assembly.conditions = []) : assembly.endFault? = none := by
  unfold Assembly.endFault?
  rw [noneOpen, oneClass, conditions]
  rfl

/-- An expression that may end where it is complete is between two items
there, or in a comment.  It is no longer in an escape, in bounds or behind a
quantifier. -/
theorem mode_of_endFault? {completed : Reading} (done : reading.complete none = .ok completed)
    (noFault : completed.endFault? = none) :
    (completed.mode = .item ∨ completed.mode = .lineComment) ∧
      completed.assembly.endFault? = none := by
  obtain ⟨position, mode, assembly⟩ := completed
  unfold endFault? at noFault
  cases mode with
  | item => exact ⟨.inl rfl, noFault⟩
  | lineComment => exact ⟨.inr rfl, noFault⟩
  | comment start => cases noFault
  | set set place => cases noFault
  | opening start opening => cases noFault
  | escape place start token escape =>
      rcases mode_complete done with rfl | same | ⟨_, _, same⟩
      · obtain ⟨_, _, rest⟩ := Except.bind_eq_ok_iff.mp done
        rcases mode_takeEscape rest with same | ⟨_, _, same⟩
        · cases same
        · cases same
      · cases same
      · cases same
  | bounds start bounds =>
      rcases mode_complete done with rfl | same | ⟨_, _, same⟩
      · cases done
      · cases same
      · cases same
  | quantified counts =>
      rcases mode_complete done with rfl | same | ⟨_, _, same⟩
      · cases done
      · cases same
      · cases same

/-- No group is open where an expression may end, so its outermost frame is
the only one. -/
theorem outer_of_endFault? {assembly : Assembly} (noFault : assembly.endFault? = none) :
    assembly.outer = [] := by
  unfold Assembly.endFault? at noFault
  split at noFault
  · cases noFault
  · rename_i noneOpen
    simpa using noneOpen

/-- The flags for a whole expression choose one kind of character classes at
most. -/
theorem oneClass_of_endFault? {assembly : Assembly} (noFault : assembly.endFault? = none) :
    (assembly.flags.ascii && assembly.flags.unicode) = false := by
  unfold Assembly.endFault? at noFault
  split at noFault
  · cases noFault
  split at noFault
  · cases noFault
  · rename_i oneClass
    exact Bool.eq_false_iff.mpr oneClass

def closing : Token := ⟨false, ')'⟩

/-- Nothing goes on with a closing parenthesis, or with the end of a line, but
a character's name that has not ended. -/
theorem complete_ending {character : Char} (ends : character ∈ [')', '\n'])
    (notNaming : reading.mode.isNaming = false) :
    reading.complete (some ⟨false, character⟩) = reading.complete none := by
  rcases reading with ⟨position, mode, assembly⟩
  have passesNot : forall test : Char -> Bool, [')', '\n'].all (fun ending => !test ending) = true ->
      Token.passes ⟨false, character⟩ test = false :=
    fun test rejected => (Bool.not_eq_true' _).mp (List.all_eq_true.mp rejected character ends)
  cases mode with
  | escape place start token escape =>
      have stops : escape.goesOn ⟨false, character⟩ = false := by
        cases escape with
        | hexadecimal letter size digits =>
            rw [Escape.Unfinished.goesOn, passesNot _ rfl, Bool.and_false]
        | octal digits => rw [Escape.Unfinished.goesOn, passesNot _ rfl, Bool.and_false]
        | number digits =>
            match digits with
            | [] => rfl
            | [_] => rw [Escape.Unfinished.goesOn, passesNot _ rfl]
            | [_, _] => rw [Escape.Unfinished.goesOn, passesNot _ rfl, Bool.and_false]
            | _ :: _ :: _ :: _ => rfl
        | beforeName => exact passesNot (· == '{') rfl
        | name characters => cases notNaming
        | afterName characters => rfl
      unfold complete
      simp only [Option.any_some, stops, Option.any_none]
  | bounds start bounds =>
      have stops : bounds.goesOn ⟨false, character⟩ = false :=
        passesNot (fun ending => bounds.goesOn ⟨false, ending⟩) rfl
      unfold complete
      simp only [Option.any_some, stops, Option.any_none]
  | quantified counts =>
      have stops : (Token.is ⟨false, character⟩ '?' || Token.is ⟨false, character⟩ '+') = false :=
        passesNot (fun ending => ending == '?' || ending == '+') rfl
      unfold complete
      simp only [Option.any_some, stops, Option.any_none]
  | opening start opening =>
      cases opening with
      | parenthesis =>
          have stops : Opening.goesOn .parenthesis ⟨false, character⟩ = false :=
            passesNot (· == '?') rfl
          unfold complete
          simp only [Option.any_some, stops, Option.any_none]
      | _ => rfl
  | _ => rfl

/-- No expression ends within a character's name: the brace that closes it is
wanted. -/
theorem isNaming_of_complete {completed : Reading}
    (done : reading.complete none = .ok completed) : reading.mode.isNaming = false := by
  obtain ⟨position, mode, assembly⟩ := reading
  cases mode with
  | escape place start token escape =>
      cases escape with
      | name characters =>
          obtain ⟨_, ended, _⟩ := Except.bind_eq_ok_iff.mp done
          cases characters <;> cases ended
      | _ => rfl
  | _ => rfl

end Reading
end Regex
end Stencil

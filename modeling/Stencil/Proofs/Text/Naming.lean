import Mathlib.Data.List.TakeWhile
import Stencil.Text.Identifier
import Stencil.Text.Numeral

namespace Stencil
namespace Text

/-!
What groups are named with.  Identifiers and numerals are made of letters,
digits, signs and blanks.  In particular none of them holds a parenthesis, a
bracket or any other character that means something to an expression.
-/

/-- Whether an identifier or a numeral may hold the character.  None of the
characters by which the scan for groups finds its way is such a one. -/
def standsInNames (character : Char) : Bool :=
  beginsIdentifier character.toNat || continuesIdentifier character.toNat ||
    Numeral.isSurroundingBlank character || (decimalValue? character.toNat).isSome ||
    ['-', '+', '_'].contains character

variable {character : Char}

theorem standsInNames_of_isIdentifier {name : List Char} (identifier : isIdentifier name = true)
    (member : character ∈ name) : standsInNames character = true := by
  cases name with
  | nil => cases member
  | cons first others =>
      rw [isIdentifier, Bool.and_eq_true, List.all_eq_true] at identifier
      rcases List.mem_cons.mp member with rfl | later
      · simp [standsInNames, identifier.1]
      · simp [standsInNames, identifier.2 _ later]

/-- A decimal digit continues an identifier. -/
theorem continuesIdentifier_digit (digit : character.isDigit = true) :
    continuesIdentifier character.toNat = true := by
  have all : forall index, index < 10 -> continuesIdentifier ('0'.toNat + index) = true := by
    decide +kernel
  rcases Char.isDigit_iff_toNat.mp digit with ⟨least, most⟩
  have last : '9'.toNat = '0'.toNat + 9 := rfl
  have member := all (character.toNat - '0'.toNat) (by omega)
  rw [Nat.add_sub_cancel' least] at member
  exact member

namespace Numeral

theorem standsInNames_of_digits? {afterDigit : Bool} {text : List Char} {digits : List Nat}
    (done : digits? afterDigit text = some digits) (member : character ∈ text) :
    standsInNames character = true := by
  induction text generalizing afterDigit digits with
  | nil => cases member
  | cons first rest inductiveHypothesis =>
      unfold digits? at done
      split at done
      · rename_i same
        cases same
      · rename_i same
        cases same
        rcases List.mem_cons.mp member with rfl | later
        · simp [standsInNames]
        · exact inductiveHypothesis done later
      · rename_i same
        cases same
        rcases Option.bind_eq_some_iff.mp done with ⟨digit, value, others⟩
        rcases Option.bind_eq_some_iff.mp others with ⟨_, further, _⟩
        rcases List.mem_cons.mp member with rfl | later
        · simp [standsInNames, value]
        · exact inductiveHypothesis further later

theorem mem_dropWhile {test : Char -> Bool} {text : List Char} (kept : test character = false)
    (member : character ∈ text) : character ∈ text.dropWhile test := by
  rw [← List.takeWhile_append_dropWhile (p := test) (l := text)] at member
  rcases List.mem_append.mp member with taken | dropped
  · rw [List.mem_takeWhile_imp taken] at kept
    cases kept
  · exact dropped

theorem mem_trim {text : List Char} (notBlank : isSurroundingBlank character = false)
    (member : character ∈ text) : character ∈ trim text := by
  rw [trim, List.mem_reverse]
  refine mem_dropWhile notBlank ?_
  rw [List.mem_reverse]
  exact mem_dropWhile notBlank member

theorem standsInNames_of_read? {text : List Char} {numeral : Numeral}
    (done : read? text = some numeral) (member : character ∈ text) :
    standsInNames character = true := by
  cases blank : isSurroundingBlank character with
  | true => simp [standsInNames, blank]
  | false =>
      have inside := mem_trim blank member
      unfold read? at done
      split at done
      · rename_i rest same
        rcases Option.map_eq_some_iff.mp done with ⟨digits, read, _⟩
        rw [same] at inside
        rcases List.mem_cons.mp inside with rfl | later
        · simp [standsInNames]
        · exact standsInNames_of_digits? read later
      · rename_i rest same
        rcases Option.map_eq_some_iff.mp done with ⟨digits, read, _⟩
        rw [same] at inside
        rcases List.mem_cons.mp inside with rfl | later
        · simp [standsInNames]
        · exact standsInNames_of_digits? read later
      · rcases Option.map_eq_some_iff.mp done with ⟨digits, read, _⟩
        exact standsInNames_of_digits? read inside

end Numeral
end Text
end Stencil

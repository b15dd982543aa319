import Stencil.Text.Digit
import Stencil.Text.Blank

namespace Stencil
namespace Text

/-!
Whole numbers as people write them: a sign if wanted, then decimal digits of
any script, which single underscores may separate, with blanks around.  The
controls that separate records are no blanks here.
-/

structure Numeral where
  negative : Bool
  /-- The values of the digits, first digit first. -/
  digits : List Nat
  deriving DecidableEq, Repr

namespace Numeral

/-- The number that digits stand for, first digit first. -/
def ofDigits (digits : List Nat) : Nat :=
  digits.foldl (fun number digit => number * 10 + digit) 0

def magnitude (numeral : Numeral) : Nat :=
  ofDigits numeral.digits

/-- The values of the digits, if the text is made of digits with single
underscores between them.  An underscore may stand only after a digit and
before one. -/
def digits? : (afterDigit : Bool) -> List Char -> Option (List Nat)
  | afterDigit, [] => if afterDigit then some [] else none
  | true, '_' :: rest => digits? false rest
  | _, character :: rest => do
      let digit ← decimalValue? character.toNat
      let digits ← digits? true rest
      pure (digit :: digits)

def isSurroundingBlank (character : Char) : Bool :=
  isAsciiBlank character.toNat || (127 < character.toNat && isBlank character.toNat)

def trim (text : List Char) : List Char :=
  ((text.dropWhile isSurroundingBlank).reverse.dropWhile isSurroundingBlank).reverse

def read? (text : List Char) : Option Numeral :=
  match trim text with
  | '-' :: rest => (digits? false rest).map (⟨true, ·⟩)
  | '+' :: rest => (digits? false rest).map (⟨false, ·⟩)
  | unsigned => (digits? false unsigned).map (⟨false, ·⟩)

end Numeral

end Text
end Stencil

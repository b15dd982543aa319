import Stencil.Regex.Error
import Stencil.Regex.Token
import Stencil.Text.Numeral

namespace Stencil
namespace Regex

/-!
Bounds in braces: how often the piece before them is to be repeated.  A brace
begins bounds only if what follows has their form; otherwise everything stands
for itself.  The reading can therefore tell what it has read so far.
-/

/-- The counts of a quantifier, where an absent upper one stands for no
bound. -/
structure Counts where
  low : Nat
  high : Option Nat
  deriving DecidableEq, Repr

/-- No count may be this high. -/
def countLimit : Nat := 4294967295

/-- The digits read after an opening brace.  If they do not end as bounds do,
the brace and they are plain characters. -/
structure BoundsReading where
  low : List Char
  /-- The digits after the comma, if there has been one. -/
  high : Option (List Char)
  deriving DecidableEq, Repr

namespace BoundsReading

def initial : BoundsReading := ⟨[], none⟩

def characters (reading : BoundsReading) : List Char :=
  '{' :: reading.low ++
    match reading.high with
    | none => []
    | some digits => ',' :: digits

def goesOn (reading : BoundsReading) (token : Token) : Bool :=
  token.passes Text.isAsciiDigit || (token.is ',' && reading.high.isNone) ||
    (token.is '}' && reading != initial)

def extend (reading : BoundsReading) (character : Char) : BoundsReading :=
  match reading.high with
  | some digits => { reading with high := some (digits ++ [character]) }
  | none =>
      if character = ',' then { reading with high := some [] }
      else { reading with low := reading.low ++ [character] }

/-- The count that digits give, which must not be too large to be read or to
be reached. -/
def count? : List Char -> Except Fault (Option Nat)
  | [] => .ok none
  | digits =>
      if maxDigits < digits.length then .error (.refused (.digits digits.length))
      else
        let count := Text.Numeral.ofDigits (digits.map fun digit => digit.toNat - '0'.toNat)
        if countLimit ≤ count then .error (.refused .repeatCount) else .ok (some count)

/-- The counts, if the bounds, which begin at `start`, end here. -/
def counts (reading : BoundsReading) (start : Nat) : Except Fault Counts := do
  let low ← count? reading.low
  let high ← count? (reading.high.getD reading.low)
  let counts : Counts := ⟨low.getD 0, high⟩
  match counts.high with
  | none => pure counts
  | some high =>
      if high < counts.low then throw (.invalid .invertedBounds (some (start + 1)))
      else pure counts

end BoundsReading

end Regex
end Stencil

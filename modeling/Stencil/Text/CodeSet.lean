namespace Stencil
namespace Text

/-!
Sets of code points, written as the increasing list of places where membership
changes: a code point belongs to the set when an odd number of those places
lie at or before it.  The tables of character properties are given in this
form.  Nothing here says which property a set stands for.
-/

structure CodeSet where
  /-- The first code point of each run, and the first one after it, in increasing order. -/
  changes : Array Nat

namespace CodeSet

/-- The number of entries at or before `code`, found by halving the window
`[low, high)`.  Each step halves the window, so `steps` bounds the depth of
the search. -/
def search (changes : Array Nat) (code : Nat) : (steps low high : Nat) -> Nat
  | 0, low, _ => low
  | steps + 1, low, high =>
      if low < high then
        let middle := (low + high) / 2
        if changes.getD middle 0 ≤ code then
          search changes code steps (middle + 1) high
        else
          search changes code steps low middle
      else
        low

/-- The number of changes of membership at or before `code`. -/
def rank (set : CodeSet) (code : Nat) : Nat :=
  search set.changes code (set.changes.size.log2 + 1) 0 set.changes.size

def contains (set : CodeSet) (code : Nat) : Bool :=
  set.rank code % 2 == 1

end CodeSet

end Text
end Stencil

import Stencil.Dictionary

namespace Stencil

/-!
Tallies: a count for each of some names.  A tally can be made of a list of
names and worked off by another one.  Working off ends early at a name that
was never counted and at one that comes up more often than it was counted.
-/

abbrev Tally := Dictionary Int

namespace Tally

/-- Counts a name once more. -/
def add (tally : Tally) (name : String) : Tally :=
  tally.set name ((tally.get? name).getD 0 + 1)

def ofNames (names : List String) : Tally :=
  names.foldl add .empty

/-- Counts a name once less, if it has a count and that does not become
negative.  This is where working off ends early. -/
def strike? (tally : Tally) (name : String) : Option Tally :=
  match tally.get? name with
  | none => none
  | some count => if count - 1 < 0 then none else some (tally.set name (count - 1))

def isCleared (tally : Tally) : Bool :=
  tally.entries.all fun entry => entry.2 == 0

end Tally

end Stencil

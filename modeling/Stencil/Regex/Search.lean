import Stencil.Regex.Basic
import Stencil.Regex.FirstSet
import Stencil.Regex.Run

namespace Stencil
namespace Regex

/-!
Where an expression matches.  A whole match takes all of the text.  A search
looks for the leftmost match; going on with it, one finds all matches, from
left to right, none overlapping another.  A match may be empty, and it may
begin where the match before it ends, but an empty match is never followed by
an empty one at the same place.

A search does not try an expression at every position.  It passes over those
where the set that the expression begins with, if it does, is looked at and
does not let the character pass.
-/

/-- A match from `start` up to `stop`, with what the groups captured. -/
structure Match where
  start : Nat
  stop : Nat
  captures : Cursor
  deriving DecidableEq, Repr

namespace Match

/-- The text between the positions that a group captured. -/
def captured? (found : Match) (group : Nat) : Option (Nat × Nat) :=
  found.captures.captured? group

def isEmpty (found : Match) : Bool :=
  found.start == found.stop

end Match

/-- The first match at `start` whose end is accepted.  A way of matching that
ends elsewhere is given up for the next one, so what is accepted decides which
match is found. -/
def matchAt? (regex : Regex) (text : Array Char) (start : Nat) (accepts : Nat -> Bool) :
    Option Match :=
  (regex.body.run text regex.flags (.start start) fun reached =>
    if accepts reached.position then some reached else none).map fun reached =>
      ⟨start, reached.position, reached⟩

def matchWhole? (regex : Regex) (text : Array Char) : Option Match :=
  regex.matchAt? text 0 fun stop => stop == text.size

/-- Whether a search tries the expression where this character stands, or at
the end of the text.  An expression that begins with no set is tried
everywhere. -/
def tries (regex : Regex) (character : Option Char) : Bool :=
  match regex.body.firstSet? regex.flags with
  | some first =>
      !first.isLookedAt ||
        character.any fun character => first.passes regex.flags.unicode character.toNat
  | none => true

/-- The match that a search finds at `start`.  It is the one that `matchAt?`
finds there, or none if the search does not try the expression. -/
def tryAt? (regex : Regex) (text : Array Char) (start : Nat) (accepts : Nat -> Bool) :
    Option Match :=
  if regex.tries text[start]? then regex.matchAt? text start accepts else none

/-- The first match at one of `count` positions from `start` on. -/
def searchAmong? (regex : Regex) (text : Array Char) : (count start : Nat) -> Option Match
  | 0, _ => none
  | count + 1, start =>
      (regex.tryAt? text start fun _ => true).or
        (searchAmong? regex text count (start + 1))

/-- The first match at `start` or later.  If `nonEmpty` is set the match must
not be empty at `start`, and is sought at that place all the same. -/
def search? (regex : Regex) (text : Array Char) (start : Nat) (nonEmpty : Bool) : Option Match :=
  if text.size < start then none
  else
    (regex.tryAt? text start fun stop => !nonEmpty || stop != start).or
      (regex.searchAmong? text (text.size - start) (start + 1))

/-- A match found at a position inside the text ends between that position and
the end. -/
theorem matchAt?_eq_some {regex : Regex} {text : Array Char} {start : Nat} {accepts : Nat -> Bool}
    {found : Match} (inside : start ≤ text.size)
    (matched : regex.matchAt? text start accepts = some found) :
    found.start = start ∧ start ≤ found.stop ∧ found.stop ≤ text.size ∧
      accepts found.stop = true := by
  obtain ⟨answer, ran, rfl⟩ := Option.map_eq_some_iff.mp matched
  obtain ⟨reached, after, before, accepted⟩ :=
    regex.body.isForward_run text regex.flags (.start start) _ answer inside ran
  split at accepted
  · rename_i accepting
    obtain rfl := Option.some.inj accepted
    exact ⟨rfl, after, before, accepting⟩
  · cases accepted

theorem tryAt?_eq_some_iff {regex : Regex} {text : Array Char} {start : Nat} {accepts : Nat -> Bool}
    {found : Match} : regex.tryAt? text start accepts = some found ↔
      regex.tries text[start]? = true ∧ regex.matchAt? text start accepts = some found :=
  Option.ite_none_right_eq_some

theorem searchAmong?_eq_some {regex : Regex} {text : Array Char} {count start : Nat} {found : Match}
    (inside : start + count ≤ text.size + 1)
    (matched : regex.searchAmong? text count start = some found) :
    start ≤ found.start ∧ found.start ≤ found.stop ∧ found.stop ≤ text.size := by
  induction count generalizing start with
  | zero => cases matched
  | succ count inductiveHypothesis =>
      rcases Option.or_eq_some_iff.mp matched with here | ⟨_, later⟩
      · obtain ⟨same, after, before, _⟩ := matchAt?_eq_some (by omega) (tryAt?_eq_some_iff.mp here).2
        omega
      · have := inductiveHypothesis (by omega) later
        omega

/-- What a search finds lies in the text, at `start` or later, and is not the
match ruled out. -/
theorem search?_eq_some {regex : Regex} {text : Array Char} {start : Nat} {nonEmpty : Bool}
    {found : Match} (matched : regex.search? text start nonEmpty = some found) :
    start ≤ found.start ∧ found.start ≤ found.stop ∧ found.stop ≤ text.size ∧
      (nonEmpty = true -> start < found.stop) := by
  unfold search? at matched
  split at matched
  · cases matched
  · rcases Option.or_eq_some_iff.mp matched with here | ⟨_, later⟩
    · obtain ⟨same, after, before, accepting⟩ :=
        matchAt?_eq_some (by omega) (tryAt?_eq_some_iff.mp here).2
      refine ⟨by omega, by omega, before, ?_⟩
      intro required
      simp only [required, Bool.not_true, Bool.false_or, bne_iff_ne, ne_eq] at accepting
      omega
    · have := searchAmong?_eq_some (by omega) later
      refine ⟨by omega, this.2.1, this.2.2, fun _ => by omega⟩

/-- How many matches there may still be: one that is empty and one that is not
for every position, but no empty one at `start` if `nonEmpty` is set. -/
def remaining (text : Array Char) (start : Nat) (nonEmpty : Bool) : Nat :=
  2 * (text.size - start) + (!nonEmpty).toNat

theorem remaining_lt_of_search?_eq_some {regex : Regex} {text : Array Char} {start : Nat}
    {nonEmpty : Bool} {found : Match} (matched : regex.search? text start nonEmpty = some found) :
    remaining text found.stop found.isEmpty < remaining text start nonEmpty := by
  have place := search?_eq_some matched
  unfold remaining
  cases nonEmpty <;> cases empty : found.isEmpty <;>
    simp only [Match.isEmpty, beq_iff_eq, beq_eq_false_iff_ne, ne_eq] at empty <;>
    simp at place ⊢ <;> omega

/-- All matches at `start` or later, the first of which must not be empty at
`start` if `nonEmpty` is set.  Each begins where the one before it ended or
later, and after an empty one no other empty one may begin there. -/
def matchesFrom (regex : Regex) (text : Array Char) (start : Nat) (nonEmpty : Bool) : List Match :=
  match _ : regex.search? text start nonEmpty with
  | none => []
  | some first => first :: matchesFrom regex text first.stop first.isEmpty
termination_by remaining text start nonEmpty
decreasing_by exact remaining_lt_of_search?_eq_some ‹_›

theorem matchesFrom_eq (regex : Regex) (text : Array Char) (start : Nat) (nonEmpty : Bool) :
    regex.matchesFrom text start nonEmpty =
      match regex.search? text start nonEmpty with
      | none => []
      | some first => first :: regex.matchesFrom text first.stop first.isEmpty := by
  rw [matchesFrom]
  split <;> rename_i outcome <;> rw [outcome]

/-- All matches in the text. -/
def findAll (regex : Regex) (text : Array Char) : List Match :=
  regex.matchesFrom text 0 false

end Regex
end Stencil

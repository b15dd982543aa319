import Mathlib.Algebra.Ring.Nat
import Mathlib.Data.List.Sort
import Stencil.Text.CodeSet

namespace Stencil
namespace Text
namespace CodeSet

/-!
What the search through a set of code points finds.  If the places where
membership changes are in increasing order, the search counts those at or
before a code point.  An even number of changes can as well be counted from
the other end, and then the set is one number with a bit for each of its
members: this is how questions about a whole table are decided.

The main statement is `contains_eq_testBit`.
-/

/-- The changes are in increasing order, and the last of them ends a run, so
that no set goes on for ever. -/
structure IsOrdered (set : CodeSet) : Prop where
  sorted : set.changes.toList.SortedLT
  even : set.changes.toList.length % 2 = 0

instance (set : CodeSet) : Decidable set.IsOrdered :=
  decidable_of_iff
    (set.changes.toList.SortedLT ∧ set.changes.toList.length % 2 = 0)
    ⟨fun both => ⟨both.1, both.2⟩, fun ordered => ⟨ordered.sorted, ordered.even⟩⟩

/-- A place that parts what passes the test from what does not is the number
of what passes. -/
theorem countP_eq_of_parts {test : Nat -> Bool} {entries : List Nat} {place : Nat}
    (inside : place ≤ entries.length)
    (before : forall index (bound : index < entries.length), index < place ->
      test entries[index] = true)
    (after : forall index (bound : index < entries.length), place ≤ index ->
      test entries[index] = false) :
    entries.countP test = place := by
  have front : (entries.take place).countP test = place := by
    have all : forall entry, entry ∈ entries.take place -> test entry = true := by
      intro entry member
      rcases List.mem_take_iff_getElem.mp member with ⟨index, bound, rfl⟩
      exact before index (by omega) (by omega)
    rw [List.countP_eq_length.mpr all, List.length_take, Nat.min_eq_left inside]
  have back : (entries.drop place).countP test = 0 := by
    refine List.countP_eq_zero.mpr fun entry member => ?_
    rcases List.mem_drop_iff_getElem.mp member with ⟨index, bound, rfl⟩
    rw [after (place + index) (by omega) (by omega)]
    exact Bool.false_ne_true
  have parts : (entries.take place ++ entries.drop place).countP test =
      (entries.take place).countP test + (entries.drop place).countP test := List.countP_append
  rw [List.take_append_drop] at parts
  rw [parts, front, back]
  rfl

/-- The search finds the number of changes at or before the code point, if it
looks where that number lies and has as many steps as halving takes. -/
theorem search_eq_countP {changes : Array Nat} (sorted : changes.toList.SortedLT) (code : Nat)
    (steps low high : Nat) (enough : high - low < 2 ^ steps) (window : low ≤ high)
    (inside : high ≤ changes.size)
    (before : forall index (bound : index < changes.size), index < low -> changes[index] ≤ code)
    (after : forall index (bound : index < changes.size), high ≤ index -> code < changes[index]) :
    search changes code steps low high = changes.toList.countP fun change => change ≤ code := by
  induction steps generalizing low high with
  | zero =>
      have closed : low = high := by
        rw [Nat.pow_zero] at enough
        omega
      subst closed
      refine (countP_eq_of_parts inside ?_ ?_).symm
      · exact fun index bound less => decide_eq_true (before index bound less)
      · exact fun index bound least =>
          decide_eq_false (Nat.not_le_of_lt (after index bound least))
  | succ steps inductiveHypothesis =>
      rw [Nat.pow_succ] at enough
      rw [search]
      split
      · rename_i less
        have middle : (low + high) / 2 < changes.size := by omega
        have get : changes.getD ((low + high) / 2) 0 = changes[(low + high) / 2] := by
          rw [Array.getD_eq_getD_getElem?, Array.getElem?_eq_getElem middle, Option.getD_some]
        dsimp only
        rw [get]
        split
        · rename_i atOrBefore
          apply inductiveHypothesis _ _ (by omega) (by omega) inside ?_ after
          intro index bound below
          rcases Nat.lt_or_eq_of_le (Nat.le_of_lt_succ below) with earlier | rfl
          · have increasing : changes[index] < changes[(low + high) / 2] :=
              sorted.getElem_lt_getElem_of_lt earlier
            omega
          · exact atOrBefore
        · rename_i later
          apply inductiveHypothesis _ _ (by omega) (by omega) (by omega) before
          intro index bound above
          rcases Nat.lt_or_eq_of_le above with further | rfl
          · have increasing : changes[(low + high) / 2] < changes[index] :=
              sorted.getElem_lt_getElem_of_lt further
            omega
          · omega
      · have closed : low = high := by omega
        subst closed
        refine (countP_eq_of_parts inside ?_ ?_).symm
        · exact fun index bound less => decide_eq_true (before index bound less)
        · exact fun index bound least =>
            decide_eq_false (Nat.not_le_of_lt (after index bound least))

theorem rank_eq_countP {set : CodeSet} (sorted : set.changes.toList.SortedLT) (code : Nat) :
    set.rank code = set.changes.toList.countP fun change => change ≤ code := by
  apply search_eq_countP sorted code _ _ _ ?_ (Nat.zero_le _) (Nat.le_refl _)
  · exact fun index _ impossible => absurd impossible (Nat.not_lt_zero index)
  · exact fun index bound beyond => absurd bound (Nat.not_lt_of_le beyond)
  · exact Nat.lt_log2_self

/-- The set as a number: a code point belongs to it if the bit at its place is
set. -/
def mask (set : CodeSet) : Nat :=
  set.changes.toList.foldr (fun change rest => (2 ^ change - 1) ^^^ rest) 0

/-- The bit at a place tells whether an odd number of changes lies after
it. -/
theorem testBit_foldr_xor (changes : List Nat) (code : Nat) :
    (changes.foldr (fun change rest => (2 ^ change - 1) ^^^ rest) 0).testBit code =
      (changes.countP (fun change => !decide (change ≤ code)) % 2 == 1) := by
  induction changes with
  | nil => simp
  | cons change rest inductiveHypothesis =>
      rw [List.foldr_cons, Nat.testBit_xor, Nat.testBit_two_pow_sub_one, inductiveHypothesis,
        List.countP_cons]
      by_cases atOrBefore : change ≤ code
      · have notAfter : ¬ code < change := by omega
        simp [atOrBefore, notAfter]
      · have after : code < change := by omega
        simp only [atOrBefore, after, decide_false, decide_true, Bool.not_false, if_true]
        have parity := Nat.mod_two_eq_zero_or_one
          (rest.countP fun change => !decide (change ≤ code))
        rcases parity with even | odd
        · simp [Nat.add_mod, even]
        · simp [Nat.add_mod, odd]

/-- Whether a code point belongs to the set can be read off the number.  Sets
are compared by their numbers in this way. -/
theorem contains_eq_testBit {set : CodeSet} (ordered : set.IsOrdered) (code : Nat) :
    set.contains code = set.mask.testBit code := by
  have all : set.changes.toList.length =
      set.changes.toList.countP (fun change => decide (change ≤ code)) +
        set.changes.toList.countP (fun change => !decide (change ≤ code)) := by
    rw [List.length_eq_countP_add_countP fun change => decide (change ≤ code)]
    simp only [Bool.not_eq_true, Bool.decide_eq_false]
  have even := ordered.even
  rw [mask, testBit_foldr_xor, contains, rank_eq_countP ordered.sorted, Bool.eq_iff_iff, beq_iff_eq,
    beq_iff_eq]
  omega

end CodeSet
end Text
end Stencil

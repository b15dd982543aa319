import Stencil.Proofs.Running.Equivalence

namespace Stencil
namespace Regex

/-!
Going through a text from match to match.  From where one match has ended the
next position is tried, and the next, until an attempt succeeds; right after
an empty match an attempt must not be empty again.  So the matches that are
found lie one behind the other, every one of them is the first to be had from
where the one before it ended, and behind the last of them there is none.  All
this is up to the positions that a search passes over without a try; if the
expression is candid there is no match at them either.

What is said of matches here is said of their spans.  The main statements are
`sweeps_matchesFrom`, that all matches of an expression are such a sweep, and
`Sweeps.pairwise` and `Sweeps.triesInVain`, on the order of a sweep and on
what it leaves out.
-/

/-- The match at a position, or if `nonEmpty` is set the first one that is not
empty. -/
def attempt? (regex : Regex) (text : Array Char) (position : Nat) (nonEmpty : Bool) : Option Match :=
  regex.matchAt? text position fun stop => !nonEmpty || stop != position

/-- No attempt from `first` on and before `limit` succeeds that a search
makes; at `first` an empty match does not count if `nonEmpty` is set.  An
attempt that the search leaves out might have succeeded. -/
def TriesInVain (regex : Regex) (text : Array Char) (first limit : Nat) (nonEmpty : Bool) : Prop :=
  forall position, first ≤ position -> position < limit -> regex.tries text[position]? = true ->
    regex.attempt? text position (nonEmpty && position == first) = none

/-- No attempt from `first` on and before `limit` succeeds, whether a search
makes it or not. -/
def FindsNone (regex : Regex) (text : Array Char) (first limit : Nat) (nonEmpty : Bool) : Prop :=
  forall position, first ≤ position -> position < limit ->
    regex.attempt? text position (nonEmpty && position == first) = none

/-- The span comes before the other one, which begins where it ends or later,
and is not that one. -/
def Precedes (span other : Nat × Nat) : Prop :=
  span.2 ≤ other.1 ∧ (span.1 < other.1 ∨ span.1 = other.1 ∧ span.2 < other.2)

/-- The spans are those of the matches from a position on, at which an empty
match does not count if `nonEmpty` is set.  Before each of them, and behind
the last, everything has been tried in vain. -/
inductive Sweeps (regex : Regex) (text : Array Char) :
    (position : Nat) -> (nonEmpty : Bool) -> List (Nat × Nat) -> Prop where
  | done {position : Nat} {nonEmpty : Bool}
      (nothing : regex.TriesInVain text position (text.size + 1) nonEmpty) :
      Sweeps regex text position nonEmpty []
  | found {position : Nat} {nonEmpty : Bool} {span : Nat × Nat} {rest : List (Nat × Nat)}
      (ahead : position ≤ span.1) (inside : span.1 ≤ text.size)
      (skipped : regex.TriesInVain text position span.1 nonEmpty)
      (here : (regex.attempt? text span.1 (nonEmpty && span.1 == position)).map Match.span =
        some span)
      (later : Sweeps regex text span.2 (span.1 == span.2) rest) :
      Sweeps regex text position nonEmpty (span :: rest)

variable {regex : Regex} {text : Array Char} {position count start limit : Nat} {nonEmpty : Bool}

/-! ## What a search passes over -/

/-- Where nothing is found from the next position on and nothing at this one,
nothing is found. -/
theorem TriesInVain.cons
    (here : regex.tryAt? text start (fun stop => !nonEmpty || stop != start) = none)
    (further : regex.TriesInVain text (start + 1) limit false) :
    regex.TriesInVain text start limit nonEmpty := by
  intro position after before tried
  rcases Nat.eq_or_lt_of_le after with rfl | later
  · rw [BEq.rfl, Bool.and_true]
    rw [tryAt?, if_pos tried] at here
    exact here
  · have notFirst : (position == start) = false := beq_eq_false_iff_ne.mpr (Nat.ne_of_gt later)
    rw [notFirst, Bool.and_false]
    exact further position later before tried

/-- The attempts at a candid expression that a search leaves out would have
failed. -/
theorem TriesInVain.findsNone (vain : regex.TriesInVain text start limit nonEmpty)
    (candid : regex.IsCandid) : regex.FindsNone text start limit nonEmpty := by
  intro position after before
  cases found : regex.attempt? text position (nonEmpty && position == start) with
  | none => rfl
  | some success =>
      have tried := candid.tries_of_matchAt? (Option.isSome_iff_exists.mpr ⟨success, found⟩)
      cases (vain position after before tried).symm.trans found

theorem triesInVain_of_searchAmong? (nothing : regex.searchAmong? text count start = none) :
    regex.TriesInVain text start (start + count) false := by
  induction count generalizing start with
  | zero => exact fun position after before => absurd before (Nat.not_lt.mpr after)
  | succ count inductiveHypothesis =>
      obtain ⟨here, others⟩ := Option.or_eq_none_iff.mp nothing
      have further := inductiveHypothesis others
      rw [Nat.add_right_comm, Nat.add_assoc] at further
      exact .cons here further

/-- A search that finds nothing has gone through every position up to the end
of the text. -/
theorem triesInVain_of_search? (nothing : regex.search? text start nonEmpty = none) :
    regex.TriesInVain text start (text.size + 1) nonEmpty := by
  unfold search? at nothing
  split at nothing
  · exact fun position after before => absurd before (by omega)
  · obtain ⟨here, others⟩ := Option.or_eq_none_iff.mp nothing
    have further := triesInVain_of_searchAmong? others
    have whole : start + 1 + (text.size - start) = text.size + 1 := by omega
    rw [whole] at further
    exact .cons here further

/-- The match that is found is the first: the positions before its start have
been gone through. -/
theorem first_of_searchAmong? {found : Match} (inside : start + count ≤ text.size + 1)
    (matched : regex.searchAmong? text count start = some found) :
    regex.TriesInVain text start found.start false ∧
      regex.attempt? text found.start false = some found := by
  induction count generalizing start with
  | zero => cases matched
  | succ count inductiveHypothesis =>
      rcases Option.or_eq_some_iff.mp matched with tried | ⟨notHere, others⟩
      · have here := (tryAt?_eq_some_iff.mp tried).2
        obtain ⟨rfl, _⟩ := matchAt?_eq_some (by omega) here
        exact ⟨fun position after before => absurd before (Nat.not_lt.mpr after), here⟩
      · obtain ⟨skipped, found⟩ := inductiveHypothesis (by omega) others
        exact ⟨.cons notHere skipped, found⟩

theorem first_of_search? {found : Match} (matched : regex.search? text start nonEmpty = some found) :
    regex.TriesInVain text start found.start nonEmpty ∧
      regex.attempt? text found.start (nonEmpty && found.start == start) = some found := by
  unfold search? at matched
  split at matched
  · cases matched
  · rcases Option.or_eq_some_iff.mp matched with tried | ⟨notHere, others⟩
    · have here := (tryAt?_eq_some_iff.mp tried).2
      obtain ⟨rfl, _⟩ := matchAt?_eq_some (by omega) here
      refine ⟨fun position after before => absurd before (Nat.not_lt.mpr after), ?_⟩
      rw [BEq.rfl, Bool.and_true]
      exact here
    · have later := (searchAmong?_eq_some (by omega) others).1
      obtain ⟨skipped, attempted⟩ := first_of_searchAmong? (by omega) others
      have notFirst : (found.start == start) = false := beq_eq_false_iff_ne.mpr (by omega)
      rw [notFirst, Bool.and_false]
      exact ⟨.cons notHere skipped, attempted⟩

/-- All matches that are found from a position on are a sweep of the text from
there. -/
theorem sweeps_matchesFrom (regex : Regex) (text : Array Char) (start : Nat) (nonEmpty : Bool) :
    regex.Sweeps text start nonEmpty ((regex.matchesFrom text start nonEmpty).map Match.span) := by
  fun_induction regex.matchesFrom text start nonEmpty with
  | case1 start nonEmpty nothing => exact .done (triesInVain_of_search? nothing)
  | case2 start nonEmpty first matched inductiveHypothesis =>
      obtain ⟨ahead, forward, inside, _⟩ := search?_eq_some matched
      obtain ⟨skipped, here⟩ := first_of_search? matched
      exact .found ahead (Nat.le_trans forward inside) skipped (congrArg (Option.map Match.span) here)
        inductiveHypothesis

/-! ## Sweeps -/

namespace Sweeps

variable {spans : List (Nat × Nat)} {span : Nat × Nat}

/-- What is found at a position ends in the text, and it is not empty if it
must not be. -/
theorem forward_of_attempt? (inside : start ≤ text.size)
    (matched : (regex.attempt? text start nonEmpty).map Match.span = some span) :
    start ≤ span.2 ∧ span.2 ≤ text.size ∧ (nonEmpty = true -> start < span.2) := by
  obtain ⟨found, here, rfl⟩ := Option.map_eq_some_iff.mp matched
  obtain ⟨_, forward, limit, accepted⟩ := matchAt?_eq_some inside here
  refine ⟨forward, limit, fun required => ?_⟩
  rw [required, Bool.not_true, Bool.false_or, bne_iff_ne] at accepted
  exact Nat.lt_of_le_of_ne forward (Ne.symm accepted)

/-- Every span lies in the text, at the position the sweep begins at or later,
and is not the empty one that does not count there. -/
theorem within (sweeps : regex.Sweeps text position nonEmpty spans) (member : span ∈ spans) :
    position ≤ span.1 ∧ span.1 ≤ span.2 ∧ span.2 ≤ text.size ∧
      (nonEmpty = true -> position < span.2) := by
  induction sweeps with
  | done => cases member
  | @found position nonEmpty first rest ahead inside skipped here later inductiveHypothesis =>
      obtain ⟨forward, limit, notEmpty⟩ := forward_of_attempt? inside here
      have firstNotEmpty : nonEmpty = true -> position < first.2 := by
        intro required
        rcases Nat.eq_or_lt_of_le ahead with same | before
        · have required : (nonEmpty && first.1 == position) = true := by
            rw [required, same, BEq.rfl]
            rfl
          exact Nat.lt_of_le_of_lt ahead (notEmpty required)
        · exact Nat.lt_of_lt_of_le before forward
      rcases List.mem_cons.mp member with rfl | others
      · exact ⟨ahead, forward, limit, firstNotEmpty⟩
      · obtain ⟨after, own, inside, _⟩ := inductiveHypothesis others
        exact ⟨by omega, own, inside, fun required => by have := firstNotEmpty required; omega⟩

/-- Every span comes before all the spans after it, not only before the next
one. -/
theorem pairwise (sweeps : regex.Sweeps text position nonEmpty spans) : spans.Pairwise Precedes := by
  induction sweeps with
  | done => exact .nil
  | @found position nonEmpty first rest ahead inside skipped here later inductiveHypothesis =>
      refine .cons (fun other member => ?_) inductiveHypothesis
      obtain ⟨after, own, _, notEmpty⟩ := later.within member
      refine ⟨after, ?_⟩
      rcases Nat.eq_or_lt_of_le (forward_of_attempt? inside here).1 with empty | wide
      · have := notEmpty (beq_iff_eq.mpr empty)
        omega
      · exact .inl (Nat.lt_of_lt_of_le wide after)

def reached (position : Nat) (front : List (Nat × Nat)) : Nat :=
  (front.getLast?.map Prod.snd).getD position

def refusesEmpty (nonEmpty : Bool) (front : List (Nat × Nat)) : Bool :=
  (front.getLast?.map fun span => span.1 == span.2).getD nonEmpty

/-- Where the next of these spans begins, or a place beyond the text if there
is none. -/
def upcoming (text : Array Char) (back : List (Nat × Nat)) : Nat :=
  (back.head?.map Prod.fst).getD (text.size + 1)

/-- A sweep goes on as a sweep from where it has come to. -/
theorem drop {front back : List (Nat × Nat)}
    (sweeps : regex.Sweeps text position nonEmpty (front ++ back)) :
    regex.Sweeps text (reached position front) (refusesEmpty nonEmpty front) back := by
  induction front generalizing position nonEmpty with
  | nil => exact sweeps
  | cons first others inductiveHypothesis =>
      cases sweeps with
      | found _ _ _ _ later =>
          have further := inductiveHypothesis later
          unfold reached refusesEmpty at further ⊢
          rw [List.getLast?_cons]
          cases last : others.getLast? with
          | none =>
              rw [last] at further
              exact further
          | some span =>
              rw [last] at further
              exact further

/-- Between two spans that follow one another, before the first and behind the
last, all tries are in vain. -/
theorem triesInVain {back : List (Nat × Nat)} (sweeps : regex.Sweeps text position nonEmpty back) :
    regex.TriesInVain text position (upcoming text back) nonEmpty := by
  cases sweeps with
  | done nothing => exact nothing
  | found _ _ skipped _ _ => exact skipped

theorem head {rest : List (Nat × Nat)}
    (sweeps : regex.Sweeps text position nonEmpty (span :: rest)) :
    (regex.attempt? text span.1 (nonEmpty && span.1 == position)).map Match.span = some span := by
  cases sweeps with
  | found _ _ _ here _ => exact here

end Sweeps

end Regex
end Stencil

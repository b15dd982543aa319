import Stencil.Proofs.Pattern.RoundTrip
import Stencil.Proofs.Running.Sweep

namespace Stencil

/-!
Finding all matches of a pattern.  The spans of the matches are a sweep of the
text: they lie in it one behind the other, none of them occurs twice, and
between them, before the first and behind the last the pattern matches nowhere
that it is tried.  A match may be empty, and a match that is not empty may
begin where an empty one was found.

A search passes over positions without a try if the pattern begins with a set
that does not let the character pass.  That misses nothing if the matcher is
candid.

The main statement is `Pattern.findAll_sweeps`.
-/

namespace Matcher

def Visit.span (visit : Visit) : Nat × Nat :=
  (visit.start, visit.stop)

/-- What is read off the things made of the items can be read off the
items. -/
theorem map_of_mapM_eq_ok {Item Made Error Key : Type} {make : Item -> Except Error Made}
    {view : Made -> Key} {key : Item -> Key} {items : List Item} {made : List Made}
    (same : forall item one, make item = .ok one -> view one = key item)
    (done : items.mapM make = .ok made) : made.map view = items.map key := by
  induction items generalizing made with
  | nil =>
      cases done
      rfl
  | cons item rest inductiveHypothesis =>
      rw [List.mapM_cons] at done
      obtain ⟨first, makes, afterFirst⟩ := Except.bind_eq_ok_iff.mp done
      obtain ⟨others, makesOthers, together⟩ := Except.bind_eq_ok_iff.mp afterFirst
      cases together
      rw [List.map_cons, List.map_cons, same item first makes, inductiveHypothesis makesOthers]

/-- The visits are where the matches are, in the same order. -/
theorem spans_of_findAll {matcher : Matcher} {text : String} {visits : List Visit}
    (done : matcher.findAll text = .ok visits) :
    visits.map Visit.span = (matcher.regex.findAll text.toList.toArray).map Regex.Match.span := by
  refine map_of_mapM_eq_ok (fun found visit bound => ?_) done
  obtain ⟨bindings, _, made⟩ := Except.bind_eq_ok_iff.mp bound
  cases made
  rfl

end Matcher

namespace Pattern

open Regex (FindsNone Precedes TriesInVain)
open Regex.Sweeps (reached refusesEmpty upcoming)

/-- All matches of a pattern in a text are found, and their spans lie in the
text one behind the other: each ends before the next one begins or where it
begins, and none occurs twice.  Each is where the matcher first succeeds,
trying one position after the other from the end of the match before it, or
from the beginning of the text; behind the last one the matcher succeeds
nowhere.  Where an empty match has just been found another empty one does not
count.  Positions whose character does not pass are not tried; at these a
candid matcher does not succeed either, and every matcher is candid in which
the classes are nowhere made ASCII's. -/
theorem findAll_sweeps {pattern : Pattern} (coherent : pattern.IsCoherent) {matcher : Matcher}
    (compiles : pattern.compile = .ok matcher) (text : String) :
    ∃ visits, pattern.findAll text = .ok visits ∧
      (forall visit, visit ∈ visits ->
        visit.start ≤ visit.stop ∧ visit.stop ≤ text.toList.length) ∧
      (visits.map Matcher.Visit.span).Pairwise Precedes ∧
      (matcher.regex.body.keepsUnicode = true -> matcher.regex.IsCandid) ∧
      forall front back, visits.map Matcher.Visit.span = front ++ back ->
        matcher.regex.TriesInVain text.toList.toArray (reached 0 front)
          (upcoming text.toList.toArray back) (refusesEmpty false front) ∧
        (matcher.regex.IsCandid ->
          matcher.regex.FindsNone text.toList.toArray (reached 0 front)
            (upcoming text.toList.toArray back) (refusesEmpty false front)) ∧
        forall span, back.head? = some span ->
          (matcher.regex.attempt? text.toList.toArray span.1
            (refusesEmpty false front && span.1 == reached 0 front)).map Regex.Match.span =
              some span := by
  obtain ⟨visits, done, each⟩ := restores_of_findAll coherent compiles text
  have finds : matcher.findAll text = .ok visits := by
    have whole : pattern.findAll text = matcher.findAll text := by
      unfold findAll
      rw [compiles]
      rfl
    exact whole.symm.trans done
  have sweeps := Regex.sweeps_matchesFrom matcher.regex text.toList.toArray 0 false
  have spans : visits.map Matcher.Visit.span =
      (matcher.regex.matchesFrom text.toList.toArray 0 false).map Regex.Match.span :=
    Matcher.spans_of_findAll finds
  rw [← spans] at sweeps
  have unicode : matcher.regex.flags.unicode = true :=
    congrArg Regex.Flags.unicode (isAssembled_of_compile coherent compiles).flags
  refine ⟨visits, done, fun visit member => ?_, sweeps.pairwise,
    Regex.isCandid_of_keepsUnicode unicode, fun front back parts => ?_⟩
  · obtain ⟨forward, inside, _⟩ := each visit member
    exact ⟨forward, inside⟩
  · rw [parts] at sweeps
    have further := sweeps.drop
    refine ⟨further.triesInVain, further.triesInVain.findsNone, fun span head => ?_⟩
    obtain ⟨rest, rfl⟩ := List.head?_eq_some_iff.mp head
    exact further.head

def emptyOrLetterExample : Pattern :=
  ⟨"${x}", ⟨[("", "x")], ""⟩, ⟨[("x", some "|a")]⟩, none⟩

theorem findAll_sweeps_emptyOrLetterExample :
    emptyOrLetterExample.IsCoherent ∧
      ∃ matcher visits, emptyOrLetterExample.compile = .ok matcher ∧
        emptyOrLetterExample.findAll "aba" = .ok visits ∧
        visits.map Matcher.Visit.span = [(0, 0), (0, 1), (1, 1), (2, 2), (2, 3), (3, 3)] ∧
        (visits.map Matcher.Visit.span).Pairwise Precedes ∧
        matcher.regex.FindsNone "aba".toList.toArray 1 2 true ∧
        matcher.regex.FindsNone "aba".toList.toArray 3 4 true := by
  have coherent : emptyOrLetterExample.IsCoherent := nofun
  have spans : (emptyOrLetterExample.findAll "aba").toOption.any (fun visits =>
      visits.map Matcher.Visit.span == [(0, 0), (0, 1), (1, 1), (2, 2), (2, 3), (3, 3)]) = true := by
    decide +kernel
  have keeps : emptyOrLetterExample.compile.toOption.any (fun matcher =>
      matcher.regex.body.keepsUnicode) = true := by
    decide +kernel
  obtain ⟨matcher, compiled, keepsUnicode⟩ := Except.exists_ok_of_any keeps
  obtain ⟨visits, done, same⟩ := Except.exists_ok_of_any spans
  obtain ⟨_, found, _, ordered, isCandid, skipped⟩ := findAll_sweeps coherent compiled "aba"
  obtain rfl := Except.ok.inj (done.symm.trans found)
  have places := beq_iff_eq.mp same
  have candid := isCandid keepsUnicode
  refine ⟨coherent, matcher, visits, compiled, found, places, ordered, ?_, ?_⟩
  · exact (skipped [(0, 0), (0, 1), (1, 1)] [(2, 2), (2, 3), (3, 3)] places).2.1 candid
  · exact (skipped [(0, 0), (0, 1), (1, 1), (2, 2), (2, 3), (3, 3)] [] places).2.1 candid

/-- A placeholder that stands for a character which is no word character in
ASCII. -/
def asciiExample : Pattern :=
  ⟨"${x}", ⟨[("", "x")], ""⟩, ⟨[("x", some "(?a)\\W")]⟩, none⟩

/-- A matcher that is not candid may succeed where no match is found.  The
classes are ASCII's in the placeholder's group only, and the look beforehand
takes the letter for a word character. -/
theorem not_findsNone_findAll :
    asciiExample.IsCoherent ∧
      ∃ matcher, asciiExample.compile = .ok matcher ∧ asciiExample.findAll "é" = .ok [] ∧
        asciiExample.matchWhole "é" = .ok [⟨"x", "é"⟩] ∧
        (matcher.regex.attempt? #['é'] 0 false).map Regex.Match.span = some (0, 1) ∧
        ¬ matcher.regex.FindsNone #['é'] 0 2 false := by
  have nothing : (asciiExample.findAll "é").toOption.any List.isEmpty = true := by decide +kernel
  have whole : (asciiExample.matchWhole "é").toOption = some [⟨"x", "é"⟩] := by decide +kernel
  have succeeds : asciiExample.compile.toOption.any (fun matcher =>
      (matcher.regex.attempt? #['é'] 0 false).map Regex.Match.span == some (0, 1)) = true := by
    decide +kernel
  obtain ⟨matcher, compiled, same⟩ := Except.exists_ok_of_any succeeds
  obtain ⟨visits, found, empty⟩ := Except.exists_ok_of_any nothing
  obtain rfl := List.isEmpty_iff.mp empty
  have here := beq_iff_eq.mp same
  refine ⟨nofun, matcher, compiled, found, Except.toOption_eq_some_iff.mp whole, here, fun absent => ?_⟩
  have atStart : matcher.regex.attempt? #['é'] 0 false = none :=
    absent 0 (Nat.le_refl _) (Nat.zero_lt_succ _)
  rw [atStart] at here
  cases here

end Pattern
end Stencil

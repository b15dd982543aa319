import Stencil.Pattern.Basic
import Stencil.Proofs.Outcome

namespace Stencil

/-!
A running search and a finished one.  A search looks for a match, shows it,
and looks for the next one behind it; in between the visitor may do what it
likes.  Nothing of this reaches the matcher or the text, so the search shows
what it would show if all matches had been found before the first visit.

Reading off the bindings of a match can only fail because a group is missing
from the matcher, and then it fails for every match.  So the search fails at
the first match or at none, as finding all matches does.

The main statement is `Pattern.search_eq_visitFound`.
-/

variable {Action : Type -> Type} [Monad Action] {Item : Type}

/-- Shows the items in order, as long as the visitor says to go on.  An item
that could not be made is not shown, and ends the visiting. -/
def visitAll (visitor : Item -> Action Verdict) : List (Outcome Item) -> Action (Report Item)
  | [] => pure ⟨[], .ok ()⟩
  | item :: rest => showThen visitor item fun _ => visitAll visitor rest

/-- Shows the items once they have been found.  If finding them fails nothing
is shown. -/
def visitFound (visitor : Item -> Action Verdict) (found : Outcome (List (Outcome Item))) :
    Action (Report Item) :=
  match found with
  | .ok items => visitAll visitor items
  | .error failure => pure ⟨[], .error failure⟩

namespace Matcher

open Regex (Match)

/-- If every step either can be taken whatever the key is or fails whatever
the key is, the same holds of all steps together. -/
theorem filterMapM_eq_ok_or_error {Key Step Made Error : Type} {failure : Error}
    {make : Key -> Step -> Except Error (Option Made)}
    (each : forall step, (forall key, ∃ made, make key step = .ok made) ∨
      forall key, make key step = .error failure) (steps : List Step) :
    (forall key, ∃ made, steps.filterMapM (make key) = .ok made) ∨
      forall key, steps.filterMapM (make key) = .error failure := by
  induction steps with
  | nil => exact .inl fun _ => ⟨[], rfl⟩
  | cons step rest inductiveHypothesis =>
      rcases each step with taken | fails
      · rcases inductiveHypothesis with others | others
        · refine .inl fun key => ?_
          obtain ⟨first, made⟩ := taken key
          obtain ⟨later, done⟩ := others key
          rw [List.filterMapM_cons, made]
          cases first with
          | none => exact ⟨later, done⟩
          | some first => exact ⟨first :: later, congrArg (List.cons first <$> ·) done⟩
        · refine .inr fun key => ?_
          obtain ⟨first, made⟩ := taken key
          rw [List.filterMapM_cons, made]
          cases first with
          | none => exact others key
          | some first => exact congrArg (List.cons first <$> ·) (others key)
      · refine .inr fun key => ?_
        rw [List.filterMapM_cons, fails key]
        rfl

/-- Either every match has bindings, or a group is missing and no match has
any. -/
theorem bindings_eq_ok_or_noSuchGroup (matcher : Matcher) (text : Array Char) :
    (forall found, ∃ bindings, matcher.bindings text found = .ok bindings) ∨
      forall found, matcher.bindings text found = .error .noSuchGroup := by
  refine filterMapM_eq_ok_or_error (fun named => ?_) _
  dsimp only [capturedBinding?]
  cases matcher.regex.groupNamed? named.1 with
  | none => exact .inr fun _ => rfl
  | some group => exact .inl fun _ => ⟨_, rfl⟩

/-- Either every match has a visit, or a group is missing and no match has
one. -/
theorem visitOf_eq_ok_or_noSuchGroup (matcher : Matcher) (text : Array Char) :
    (∃ visits : Match -> Visit, forall found, matcher.visitOf text found = .ok (visits found)) ∨
      forall found, matcher.visitOf text found = .error .noSuchGroup := by
  rcases matcher.bindings_eq_ok_or_noSuchGroup text with present | missing
  · obtain ⟨bindings, bound⟩ := Classical.axiomOfChoice present
    refine .inl ⟨fun found => ⟨found.start, found.stop, bindings found⟩, fun found => ?_⟩
    rw [visitOf, bound]
    rfl
  · refine .inr fun found => ?_
    rw [visitOf, missing]
    rfl

theorem searchFrom_eq (matcher : Matcher) (text : Array Char) (make : Visit -> Outcome Item)
    (visitor : Item -> Action Verdict) (start : Nat) (nonEmpty : Bool) :
    matcher.searchFrom text make visitor start nonEmpty =
      match matcher.regex.search? text start nonEmpty with
      | none => pure ⟨[], .ok ()⟩
      | some found =>
          showThen visitor (matcher.visitOf text found >>= make) fun _ =>
            matcher.searchFrom text make visitor found.stop found.isEmpty := by
  rw [searchFrom]
  split <;> rename_i outcome <;> rw [outcome]

/-- If a visit can be made of every match, it makes no difference whether all
of them are made before the first is shown. -/
theorem searchFrom_eq_visitAll {matcher : Matcher} {text : Array Char} {visits : Match -> Visit}
    (made : forall found, matcher.visitOf text found = .ok (visits found))
    (make : Visit -> Outcome Item) (visitor : Item -> Action Verdict) (start : Nat)
    (nonEmpty : Bool) :
    matcher.searchFrom text make visitor start nonEmpty =
      visitAll visitor
        ((matcher.regex.matchesFrom text start nonEmpty).map fun found => make (visits found)) := by
  fun_induction matcher.regex.matchesFrom text start nonEmpty with
  | case1 start nonEmpty nothing =>
      rw [searchFrom_eq, nothing]
      rfl
  | case2 start nonEmpty first matched inductiveHypothesis =>
      have passed : matcher.visitOf text first >>= make = make (visits first) := by
        rw [made]
        rfl
      rw [searchFrom_eq, matched, List.map_cons, visitAll, ← inductiveHypothesis]
      dsimp only
      rw [passed]

/-- A search through a matcher shows what would be shown if all matches had
been found before. -/
theorem searchFrom_eq_visitFound (matcher : Matcher) (text : String)
    (make : Visit -> Outcome Item) (visitor : Item -> Action Verdict) :
    matcher.searchFrom text.toList.toArray make visitor 0 false =
      visitFound visitor ((matcher.findAll text).map (List.map make)) := by
  rcases matcher.visitOf_eq_ok_or_noSuchGroup text.toList.toArray with ⟨visits, made⟩ | missing
  · have done : matcher.findAll text =
        .ok ((matcher.regex.findAll text.toList.toArray).map visits) :=
      Except.mapM_eq_ok_map fun found _ => made found
    rw [searchFrom_eq_visitAll made, done, Except.map, List.map_map]
    rfl
  · rw [searchFrom_eq, findAll, Regex.findAll, Regex.matchesFrom_eq]
    cases matcher.regex.search? text.toList.toArray 0 false with
    | none => rfl
    | some first =>
        dsimp only
        rw [missing, List.mapM_cons, missing]
        rfl

end Matcher

/-- A search shows its visitor what all matches, found beforehand, would show
it. -/
theorem Pattern.search_eq_visitFound (pattern : Pattern) (text : String)
    (make : Matcher.Visit -> Outcome Item) (visitor : Item -> Action Verdict) :
    pattern.search text make visitor =
      visitFound visitor ((pattern.findAll text).map (List.map make)) := by
  rw [search, findAll]
  cases pattern.compile with
  | error failure => rfl
  | ok matcher => exact matcher.searchFrom_eq_visitFound text make visitor

end Stencil

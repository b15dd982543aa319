import Stencil.Failure

namespace Stencil

/-!
Visiting.  What a search finds is shown to a visitor one by one; after each
the visitor says whether to go on, to stop, or to give up the search with a
failure.
-/

/-- What a visitor says after an item: to go on, to stop, or to give the
search up with a failure. -/
inductive Verdict where
  | goOn
  | stop
  | giveUp (failure : Failure)
  deriving DecidableEq, Repr

/-- The items that were visited, in order, and how the visiting ended. -/
structure Report (Item : Type) where
  visited : List Item
  ending : Outcome Unit

/-- Shows an item, and if the visitor says to go on also what comes after it,
which is left alone until then.  An item that could not be made ends the
search. -/
def showThen {Action : Type -> Type} [Monad Action] {Item : Type}
    (visitor : Item -> Action Verdict) :
    Outcome Item -> (others : Unit -> Action (Report Item)) -> Action (Report Item)
  | .error failure, _ => pure ⟨[], .error failure⟩
  | .ok item, others => do
      match ← visitor item with
      | .stop => pure ⟨[item], .ok ()⟩
      | .giveUp failure => pure ⟨[item], .error failure⟩
      | .goOn =>
          let report ← others ()
          pure { report with visited := item :: report.visited }

end Stencil

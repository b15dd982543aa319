import Stencil.Tally

namespace Stencil

/-!
Bindings: values given to names.  A name may be bound more than once, and the
order of its values matters.  The value of a binding is an expression that a
placeholder has to match, or a text that a placeholder stands for.
-/

structure Binding (Value : Type) where
  name : String
  value : Value
  deriving DecidableEq, Repr

namespace Binding

variable {Value : Type}

def names (bindings : List (Binding Value)) : List String :=
  bindings.map Binding.name

/-- The values bound to a name, in order.  A name that is not bound has
none. -/
def valuesOf (bindings : List (Binding Value)) (name : String) : List Value :=
  (bindings.filter fun binding => binding.name == name).map Binding.value

/-- The values bound to each name that is bound, in order, collected under
their names in one pass. -/
def queues (bindings : List (Binding Value)) : Dictionary (List Value) :=
  bindings.foldl (fun queues binding =>
    queues.set binding.name ((queues.get? binding.name).getD [] ++ [binding.value])) .empty

/-- The first value bound to a name. -/
def firstOf? (bindings : List (Binding Value)) (name : String) : Option Value :=
  (bindings.find? fun binding => binding.name == name).map Binding.value

/-- Whether a name is bound. -/
def binds (bindings : List (Binding Value)) (name : String) : Bool :=
  bindings.any fun binding => binding.name == name

/-- Whether both lists bind every name equally often: the names on the left
are counted, and those on the right are counted off. -/
def sameNames {Other : Type} (left : List (Binding Value)) (right : List (Binding Other)) : Bool :=
  match (names right).foldlM Tally.strike? (Tally.ofNames (names left)) with
  | none => false
  | some tally => tally.isCleared

end Binding

end Stencil

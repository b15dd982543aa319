namespace Stencil

/-!
Rule tables: the expressions for the placeholders of a template.  A table
holds each name once, in a fixed order, and a name may have no expression.
Rebinding changes the expression of a name that the table holds; it never adds
one.
-/

structure Rules where
  entries : List (String × Option String)
  deriving DecidableEq, Repr

namespace Rules

/-- The table of distinct names whose expressions `expression` gives, in the
order in which the names are first met. -/
def ofNames (names : List String) (expression : String -> Option String) : Rules where
  entries := names.eraseDups.map fun name => (name, expression name)

def names (rules : Rules) : List String :=
  rules.entries.map Prod.fst

def has (rules : Rules) (name : String) : Bool :=
  rules.names.contains name

def expression? (rules : Rules) (name : String) : Option String :=
  (rules.entries.lookup name).join

/-- Gives a name that the table holds another expression, or none.  A name
that it does not hold leaves the table as it is. -/
def rebind (rules : Rules) (name : String) (expression : Option String) : Rules where
  entries := rules.entries.map fun (held, old) => (held, if held = name then expression else old)

theorem names_rebind (rules : Rules) (name : String) (expression : Option String) :
    (rules.rebind name expression).names = rules.names := by
  simp [names, rebind, Function.comp_def]

end Rules

end Stencil

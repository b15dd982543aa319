import Stencil.Pattern.Basic
import Stencil.Text.Case

namespace Stencil

/-!
Filling in templates by asking.  Placeholders whose names have values already
take those; for every occurrence of any other placeholder a value is asked
for, in the order of the template.  A value given for a placeholder whose name
begins with a capital letter gets one, too.
-/

namespace Filling

/-- The name as it is shown: in lower case, and with blanks for
underscores. -/
def shownName (name : String) : String :=
  Text.lower (name.map fun character => if character = '_' then ' ' else character)

/-- The value as it is filled in. -/
def formatValue (name value : String) : String :=
  if Text.isCapitalized name then Text.capitalizeFirst value else value

def formatted (binding : Binding String) : Binding String :=
  { binding with value := formatValue binding.name binding.value }

def question (number : Nat) (name : String) : String :=
  "(" ++ toString number ++ ") " ++ shownName name

variable {Action : Type -> Type} [Monad Action]

/-- Asks for a value for each name; the questions are numbered from `number`
on.  One that is not answered ends the asking. -/
def askAll (ask : String -> Action (Outcome String)) :
    (number : Nat) -> List String -> ExceptT Failure Action (List (Binding String))
  | _, [] => pure []
  | number, name :: rest => do
      let value ← ExceptT.mk (ask (question number name))
      let later ← askAll ask (number + 1) rest
      pure (formatted ⟨name, value⟩ :: later)

/-- Fills in a template, given the values there are and a way of asking for
others.  All questions are asked before anything is filled in. -/
def fill (ask : String -> Action (Outcome String)) (template : String)
    (supplied : List (Binding String)) : ExceptT Failure Action String := do
  let pattern ← ExceptT.mk (pure (Pattern.parse template []))
  let asked := pattern.template.names.filter fun name => !Binding.binds supplied name
  let answers ← askAll ask 1 asked
  ExceptT.mk (pure (pattern.apply (supplied.map formatted ++ answers)))

end Filling

end Stencil

import Stencil.Template.Basic

namespace Stencil

/-!
Filling templates.  The placeholders are taken in order of occurrence, and the
value of each may depend on its name and on how many placeholders of that name
have been met, itself included.  Where the values come from is left open: they
may be computed, looked up, asked for or refused, and a refusal ends the
filling before the next placeholder is reached.
-/

namespace Template

variable {Action : Type -> Type} [Monad Action]

/-- Fills the pieces, of which `passed` names the placeholders before them,
and ends with `last`. -/
def fillPieces (value : String -> Nat -> Action String) (last : String) :
    (passed : List String) -> List (String × String) -> Action String
  | _, [] => pure last
  | passed, (literal, name) :: rest => do
      let text ← value name (passed.count name + 1)
      let remainder ← fillPieces value last (name :: passed) rest
      pure (literal ++ text ++ remainder)

/-- Fills the template with `value name occurrence` for each placeholder,
occurrences being counted from one for each name. -/
def fillWith (template : Template) (value : String -> Nat -> Action String) : Action String :=
  fillPieces value template.last [] template.pieces

theorem fragments_cons (literal name : String) (pieces : List (String × String)) (last : String) :
    fragments ⟨(literal, name) :: pieces, last⟩ =
      .literal literal :: .placeholder name :: fragments ⟨pieces, last⟩ :=
  rfl

end Template

end Stencil

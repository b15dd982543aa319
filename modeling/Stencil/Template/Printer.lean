import Stencil.Template.Basic

namespace Stencil

/-!
Writing templates.  A literal is written with every `$` doubled and a
placeholder as `${name}`, so reading what is written gives the fragments back,
provided the names can be placeholder names.
-/

namespace Template

/-- Doubles every opening symbol.  Nothing else in a literal needs
escaping. -/
def escapeCharacters : List Char -> List Char
  | [] => []
  | character :: rest =>
      if character = openingSymbol then
        openingSymbol :: openingSymbol :: escapeCharacters rest
      else
        character :: escapeCharacters rest

def escapeLiteral (literal : String) : String :=
  String.ofList (escapeCharacters literal.toList)

def printFragment : Fragment -> String
  | .literal text => escapeLiteral text
  | .placeholder name =>
      String.ofList ([openingSymbol, openingBrace] ++ name.toList ++ [closingBrace])

/-- The text of a fragment sequence. -/
def print (fragments : List Fragment) : String :=
  fragments.foldl (fun text fragment => text ++ printFragment fragment) ""

end Template

end Stencil

import Stencil.Text.CharacterName

namespace Stencil
namespace Text

open CharacterName

/-!
What the names of characters are made of: capital letters, digits, spaces and
hyphens.  In particular no name holds a parenthesis, a bracket or any other
character that means something to an expression.
-/

theorem isNameCharacter_of_characterNamed? {name : List Char} {named : Char}
    (found : characterNamed? (String.ofList name) = some named) {character : Char}
    (member : character ∈ name) : isNameCharacter character.toUpper = true := by
  unfold characterNamed? at found
  rw [String.toList_ofList] at found
  split at found
  · rename_i isName
    exact List.all_eq_true.mp isName character member
  · nomatch found

end Text
end Stencil

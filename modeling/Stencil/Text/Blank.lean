import Stencil.Text.CodeSet

namespace Stencil
namespace Text

/-!
Blank characters.  The wide sense is Unicode 14's: separators, and the
controls whose direction is that of white space or of a paragraph or segment
end.  The narrow sense is the six ASCII blanks.
-/

/-- The blank characters of all scripts. -/
def blanks : CodeSet where
  changes := #[
    0x9, 0xE, 0x1C, 0x21, 0x85, 0x86, 0xA0, 0xA1, 0x1680, 0x1681, 0x2000, 0x200B, 0x2028, 0x202A,
    0x202F, 0x2030, 0x205F, 0x2060, 0x3000, 0x3001]

def isBlank (code : Nat) : Bool :=
  blanks.contains code

/-- Whether the code point is one of the six ASCII blanks: space, tab, line
feed, vertical tab, form feed and carriage return. -/
def isAsciiBlank (code : Nat) : Bool :=
  code == 0x20 || (0x09 ≤ code && code ≤ 0x0D)

end Text
end Stencil

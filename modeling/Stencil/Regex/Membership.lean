import Stencil.Regex.Expr
import Stencil.Text.Case
import Stencil.Text.Digit
import Stencil.Text.Blank
import Stencil.Text.Alphabet

namespace Stencil
namespace Regex

/-!
Which characters an item admits.  The classes, and what counts as the same
letter in another case, are Unicode's or ASCII's as the flags say.

When case is ignored a character is folded: it is replaced by the first
character of its lower-case form.  Letters that fold alike count as one, and
so do the members of a few classes of letters that fold differently.  A set
with nothing in it that has a case is not folded at all.  Code points from
`beyondBasic` on are listed in a set as they are and not folded.
-/

/-- The first code point after the basic plane. -/
def beyondBasic : Nat := 0x10000

namespace ClassKind

def contains (unicode : Bool) (kind : ClassKind) (code : Nat) : Bool :=
  match kind, unicode with
  | .digit, true => Text.isDecimalDigit code
  | .digit, false => 0x30 ≤ code && code ≤ 0x39
  | .space, true => Text.isBlank code
  | .space, false => Text.isAsciiBlank code
  | .word, true => Text.isWordCode code
  | .word, false =>
      Text.Case.isAsciiLetter code || (0x30 ≤ code && code ≤ 0x39) || code == 0x5F

end ClassKind

def Category.contains (unicode : Bool) (category : Category) (code : Nat) : Bool :=
  category.kind.contains unicode code != category.negated

/-- Folds a code point, as Unicode or ASCII has it. -/
def fold (unicode : Bool) (code : Nat) : Nat :=
  if unicode then Text.Case.foldLower code else Text.Case.foldAscii code

def hasCase (unicode : Bool) (code : Nat) : Bool :=
  if unicode then Text.Case.changesCase code else Text.Case.isAsciiLetter code

/-- The folded code points that count as one with `folded`, itself
included. -/
def sameLetter (unicode : Bool) (folded : Nat) : List Nat :=
  if unicode then folded :: Text.Case.siblings folded else [folded]

def foldsTo (unicode : Bool) (folded : Nat) : List Nat :=
  if unicode then Text.Case.foldSources folded
  else
    (if Text.Case.foldAscii folded == folded then [folded] else []) ++
      (if Text.Case.foldAscii (folded - 32) == folded then [folded - 32] else [])

namespace Member

def contains (unicode : Bool) (code : Nat) : Member -> Bool
  | .code only => code == only
  | .range first last => first ≤ code && code ≤ last
  | .category named => named.contains unicode code

/-- Whether a set with this member has to be folded. -/
def isCased (unicode : Bool) : Member -> Bool
  | .code only => beyondBasic ≤ only || hasCase unicode only
  | .range first last =>
      beyondBasic ≤ last ||
        (if unicode then Text.Case.someChangesCase first last
        else (first ≤ 0x5A && 0x41 ≤ last) || (first ≤ 0x7A && 0x61 ≤ last))
  | .category _ => false

/-- Whether the member admits a folded code point.  Up to the end of the basic
plane it does if a letter that counts as one with it belongs to the member.
Beyond, code points count as they are listed, and in a range so do their
capitals. -/
def containsFolded (unicode : Bool) (folded : Nat) : Member -> Bool
  | .code only =>
      if only < beyondBasic then (sameLetter unicode (fold unicode only)).contains folded
      else folded == only
  | .range first last =>
      let within (code : Nat) : Bool := first ≤ code && code ≤ last
      let basic := (sameLetter unicode folded).any fun letter =>
        (foldsTo unicode letter).any fun code => code < beyondBasic && within code
      basic || (beyondBasic ≤ last && (within folded || within (Text.Case.foldUpper folded)))
  | .category named => named.contains unicode folded

end Member

/-- Whether the code point is the letter or sign `code`. -/
def codeAdmits (flags : Flags) (code candidate : Nat) : Bool :=
  if flags.ignoreCase && hasCase flags.unicode code then
    (sameLetter flags.unicode (fold flags.unicode code)).contains (fold flags.unicode candidate)
  else
    candidate == code

/-- Whether the code point belongs to a set with these members.  The set is
folded as a whole, or not at all if nothing in it has a case. -/
def membersAdmit (flags : Flags) (members : List Member) (candidate : Nat) : Bool :=
  if flags.ignoreCase && members.any (Member.isCased flags.unicode) then
    members.any (Member.containsFolded flags.unicode (fold flags.unicode candidate))
  else
    members.any (Member.contains flags.unicode candidate)

end Regex
end Stencil

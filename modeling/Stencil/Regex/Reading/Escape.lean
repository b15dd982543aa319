import Stencil.Regex.Expr
import Stencil.Regex.Error
import Stencil.Regex.Token
import Stencil.Text.Numeral
import Stencil.Text.CharacterName

namespace Stencil
namespace Regex

/-!
Escapes: what a backslash and the character after it stand for.  Most escapes
are complete with that character.  The others go on, with digits or with a
name in braces; how far they go depends on the next token alone, which is
looked at before it is taken.

Inside a character set the same escapes are read a little differently: no
anchors, no references to groups, and `\b` is the backspace.
-/

namespace Escape

inductive Meaning where
  | code (code : Nat)
  | category (category : Category)
  | anchor (anchor : Anchor)
  /-- What the group of that number has captured. -/
  | reference (group : Nat)
  deriving DecidableEq, Repr

/-- An escape that may go on, with what has been read of it. -/
inductive Unfinished where
  /-- As many hexadecimal digits as `size` says. -/
  | hexadecimal (letter : Char) (size : Nat) (digits : List Char)
  /-- Up to three octal digits. -/
  | octal (digits : List Char)
  /-- A digit other than zero and perhaps more. -/
  | number (digits : List Char)
  | beforeName
  | name (characters : List Char)
  | afterName (characters : List Char)
  deriving DecidableEq, Repr

inductive Beginning where
  | whole (meaning : Meaning)
  | unfinished (escape : Unfinished)
  | unknown
  deriving DecidableEq, Repr

def isOctalDigit (character : Char) : Bool :=
  '0' ≤ character && character ≤ '7'

def hexadecimalValue? (character : Char) : Option Nat :=
  if '0' ≤ character && character ≤ '9' then some (character.toNat - '0'.toNat)
  else if 'a' ≤ character && character ≤ 'f' then some (character.toNat - 'a'.toNat + 10)
  else if 'A' ≤ character && character ≤ 'F' then some (character.toNat - 'A'.toNat + 10)
  else none

def isHexadecimalDigit (character : Char) : Bool :=
  (hexadecimalValue? character).isSome

/-- The number written with the digits in the given base, first digit
first. -/
def valueInBase (base : Nat) (digits : List Char) : Nat :=
  digits.foldl (fun value digit => value * base + (hexadecimalValue? digit).getD 0) 0

/-- The codes of the control characters that have a letter, and of the
backslash. -/
def controlCode? : Char -> Option Nat
  | 'a' => some 0x07
  | 'b' => some 0x08
  | 'f' => some 0x0C
  | 'n' => some 0x0A
  | 'r' => some 0x0D
  | 't' => some 0x09
  | 'v' => some 0x0B
  | '\\' => some 0x5C
  | _ => none

def category? : Char -> Option Category
  | 'd' => some ⟨.digit, false⟩
  | 'D' => some ⟨.digit, true⟩
  | 's' => some ⟨.space, false⟩
  | 'S' => some ⟨.space, true⟩
  | 'w' => some ⟨.word, false⟩
  | 'W' => some ⟨.word, true⟩
  | _ => none

def anchor? : Char -> Option Anchor
  | 'A' => some .textStart
  | 'b' => some .wordBoundary
  | 'B' => some .noWordBoundary
  | 'Z' => some .textEnd
  | _ => none

def unfinished? (inSet : Bool) : Char -> Option Unfinished
  | 'x' => some (.hexadecimal 'x' 2 [])
  | 'u' => some (.hexadecimal 'u' 4 [])
  | 'U' => some (.hexadecimal 'U' 8 [])
  | 'N' => some .beforeName
  | character =>
      if character = '0' || (inSet && isOctalDigit character) then some (.octal [character])
      else if Text.isAsciiDigit character && !inSet then some (.number [character])
      else none

def isAsciiLetter (character : Char) : Bool :=
  ('A' ≤ character && character ≤ 'Z') || ('a' ≤ character && character ≤ 'z')

/-- What a backslash and the character begin.  Letters and digits without a
meaning are reserved; every other character stands for itself. -/
def begin (inSet : Bool) (character : Char) : Beginning :=
  match (if inSet then none else anchor? character), category? character,
      controlCode? character, unfinished? inSet character with
  | some anchor, _, _, _ => .whole (.anchor anchor)
  | none, some category, _, _ => .whole (.category category)
  | none, none, some code, _ => .whole (.code code)
  | none, none, none, some escape => .unfinished escape
  | none, none, none, none =>
      if isAsciiLetter character || Text.isAsciiDigit character then .unknown
      else .whole (.code character.toNat)

namespace Unfinished

def goesOn (escape : Unfinished) (token : Token) : Bool :=
  match escape with
  | .hexadecimal _ size digits => digits.length < size && token.passes isHexadecimalDigit
  | .octal digits => digits.length < 3 && token.passes isOctalDigit
  | .number [_] => token.passes Text.isAsciiDigit
  | .number [first, second] =>
      isOctalDigit first && isOctalDigit second && token.passes isOctalDigit
  | .number _ => false
  | .beforeName => token.is '{'
  | .name _ => true
  | .afterName _ => false

/-- The escape with the token, which it goes on with. -/
def extend (escape : Unfinished) (token : Token) : Unfinished :=
  match escape with
  | .hexadecimal letter size digits => .hexadecimal letter size (digits ++ [token.character])
  | .octal digits => .octal (digits ++ [token.character])
  | .number digits => .number (digits ++ [token.character])
  | .beforeName => .name []
  | .name characters =>
      if token.is '}' then .afterName characters else .name (characters ++ token.characters)
  | .afterName characters => .afterName characters

def text : Unfinished -> String
  | .hexadecimal letter _ digits => String.ofList ('\\' :: letter :: digits)
  | .octal digits => String.ofList ('\\' :: digits)
  | .number digits => String.ofList ('\\' :: digits)
  | _ => "\\N"

/-- The code point with the given number, for an escape that begins at
`start`. -/
def codePoint (start : Nat) (text : String) (value : Nat) : Except Fault Meaning :=
  if value ≤ 0x10FFFF then .ok (.code value)
  else if value ≤ 0x7FFFFFFF then .error (.invalid (.badEscape text) (some start))
  else .error (.refused .codePoint)

def octalCode (start : Nat) (text : String) (digits : List Char) : Except Fault Meaning :=
  let value := valueInBase 8 digits
  if value ≤ 0o377 then .ok (.code value)
  else .error (.invalid (.octalTooLarge text) (some start))

/-- What the escape stands for if it ends here.  It begins at `start` and ends
before `stop`. -/
def finish (escape : Unfinished) (start stop : Nat) : Except Fault Meaning :=
  match escape with
  | .hexadecimal _ size digits =>
      if digits.length < size then .error (.invalid (.incompleteEscape escape.text) (some start))
      else codePoint start escape.text (valueInBase 16 digits)
  | .octal digits => octalCode start escape.text digits
  | .number digits =>
      if digits.length < 3 then .ok (.reference (valueInBase 10 digits))
      else octalCode start escape.text digits
  | .beforeName => .error (.invalid .missingNameBrace (some stop))
  | .name [] => .error (.invalid (.missingName "character name") (some stop))
  | .name characters =>
      .error (.invalid (.unterminatedName '}') (some (stop - characters.length)))
  | .afterName [] => .error (.invalid (.missingName "character name") (some (stop - 1)))
  | .afterName characters =>
      match Text.characterNamed? (String.ofList characters) with
      | some character => .ok (.code character.toNat)
      | none =>
          .error (.invalid (.unknownCharacterName (String.ofList characters)) (some start))

end Unfinished

end Escape

end Regex
end Stencil

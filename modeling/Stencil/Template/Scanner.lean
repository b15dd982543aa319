import Stencil.Template.Basic

namespace Stencil

/-!
Reading templates.  A `$` begins either a placeholder, written `${name}`, or a
literal `$`, written `$$`; every other character outside a placeholder stands
for itself.  The scanner takes one character at a time and stops at the first
one that no template could have at that place, so an error always names that
character, or the `$` of the construct that the text leaves unfinished.
-/

namespace Template

inductive Problem where
  /-- After a `$` stands neither a second one nor an opening brace. -/
  | wantedOpening (found : Char)
  | badNameCharacter (found : Char)
  | emptyPlaceholder
  /-- The text ends after a single `$`. -/
  | incompleteEscape
  /-- The text ends inside a placeholder. -/
  | incompletePlaceholder
  deriving DecidableEq, Repr

def Problem.message : Problem -> String
  | .wantedOpening found => "wanted `$` or `\x7b` but found `" ++ found.toString ++ "`"
  | .badNameCharacter found => "invalid placeholder character `" ++ found.toString ++ "`"
  | .emptyPlaceholder => "empty placeholder"
  | .incompleteEscape => "incomplete escape"
  | .incompletePlaceholder => "incomplete placeholder"

/-- A problem and its place: that of the character that shows it, or of the
`$` that begins the construct it lies in. -/
structure SyntaxError where
  offset : Nat
  problem : Problem
  deriving DecidableEq, Repr

/-- What the scanner is in the middle of.  The offsets are those of the `$`
that began it. -/
inductive Mode where
  | literal
  | symbol (opened : Nat)
  | name (opened : Nat)
  deriving DecidableEq, Repr

/-- The scanner's memory: the pieces read so far and the characters of the
literal or the name being read, both last first. -/
structure Scanner where
  mode : Mode
  pieces : List (String × String)
  literal : List Char
  name : List Char
  deriving DecidableEq, Repr

namespace Scanner

def initial : Scanner := ⟨.literal, [], [], []⟩

/-- Takes the character at `offset`.  Whatever is refused here is refused
whatever follows. -/
def step (scanner : Scanner) (offset : Nat) (character : Char) : Except SyntaxError Scanner :=
  match scanner.mode with
  | .literal =>
      if character = openingSymbol then
        .ok { scanner with mode := .symbol offset }
      else
        .ok { scanner with literal := character :: scanner.literal }
  | .symbol opened =>
      if character = openingSymbol then
        .ok { scanner with mode := .literal, literal := character :: scanner.literal }
      else if character = openingBrace then
        .ok { scanner with mode := .name opened }
      else
        .error ⟨offset, .wantedOpening character⟩
  | .name opened =>
      if character = closingBrace then
        if scanner.name.isEmpty then
          .error ⟨opened, .emptyPlaceholder⟩
        else
          let piece :=
            (String.ofList scanner.literal.reverse, String.ofList scanner.name.reverse)
          .ok ⟨.literal, piece :: scanner.pieces, [], []⟩
      else if isNameCharacter character then
        .ok { scanner with name := character :: scanner.name }
      else
        .error ⟨offset, .badNameCharacter character⟩

/-- Takes all of the text, whose first character is at `offset`, up to the
first character that is refused. -/
def run (scanner : Scanner) (offset : Nat) : List Char -> Except SyntaxError Scanner
  | [] => .ok scanner
  | character :: rest =>
      match scanner.step offset character with
      | .ok next => next.run (offset + 1) rest
      | .error error => .error error

/-- The template read, if the text may end here. -/
def finish (scanner : Scanner) : Except SyntaxError Template :=
  match scanner.mode with
  | .literal => .ok ⟨scanner.pieces.reverse, String.ofList scanner.literal.reverse⟩
  | .symbol opened => .error ⟨opened, .incompleteEscape⟩
  | .name opened => .error ⟨opened, .incompletePlaceholder⟩

end Scanner

/-- Reads a template. -/
def parse (text : String) : Except SyntaxError Template :=
  (Scanner.initial.run 0 text.toList).bind Scanner.finish

end Template

end Stencil

import Stencil.Text.Quoted

namespace Stencil
namespace Regex

/-!
What can be wrong with a regular expression.  Most problems have a place in
the text, which is shown with its line and column when the text has several
lines; those found once the whole expression has been read have none.  Apart
from problems there are limits: demands that are well formed but that the
dialect refuses to take on.
-/

inductive RepeatMode where
  /-- As often as possible, giving back. -/
  | greedy
  /-- As rarely as possible, taking more. -/
  | lazy
  /-- As often as possible, never giving back. -/
  | possessive
  deriving DecidableEq, Repr

def RepeatMode.operator : RepeatMode -> String
  | .greedy => "MAX_REPEAT"
  | .lazy => "MIN_REPEAT"
  | .possessive => "POSSESSIVE_REPEAT"

inductive Problem where
  | danglingBackslash
  | badEscape (escape : String)
  | incompleteEscape (escape : String)
  | octalTooLarge (escape : String)
  | missingNameBrace
  | missingName (what : String)
  | unterminatedName (terminator : Char)
  | unknownCharacterName (name : String)
  | unterminatedSet
  | badRange (first last : String)
  | nothingToRepeat
  | multipleRepeat
  | invertedBounds
  | unexpectedEnd
  | unknownExtension (extension : String)
  | unterminatedComment
  | unterminatedGroup
  | unbalancedParenthesis
  | badGroupName (name : String)
  | redefinedGroupName (name : String) (group earlier : Nat)
  | unknownGroupName (name : String)
  | badGroupNumber
  | unknownGroup (number : Nat)
  | openGroup
  | groupOfSameLookBehind
  | tooManyBranches
  | misplacedGlobalFlags
  | localeFlag
  | conflictingFlags
  | missingFlagsEnd
  | unknownFlag
  | missingFlag
  | missingColon
  | unscopableFlagOn
  | unremovableFlag
  | unscopableFlagOff
  | flagOnAndOff
  | lookBehindTooFar
  | lookBehindNotFixed
  | refusedRepeat (mode : RepeatMode)
  deriving DecidableEq, Repr

namespace Problem

def message : Problem -> String
  | .danglingBackslash => "bad escape (end of pattern)"
  | .badEscape escape => "bad escape " ++ escape
  | .incompleteEscape escape => "incomplete escape " ++ escape
  | .octalTooLarge escape => "octal escape value " ++ escape ++ " outside of range 0-0o377"
  | .missingNameBrace => "missing \x7b"
  | .missingName what => "missing " ++ what
  | .unterminatedName terminator => "missing " ++ terminator.toString ++ ", unterminated name"
  | .unknownCharacterName name => "undefined character name " ++ Text.quoted name
  | .unterminatedSet => "unterminated character set"
  | .badRange first last => "bad character range " ++ first ++ "-" ++ last
  | .nothingToRepeat => "nothing to repeat"
  | .multipleRepeat => "multiple repeat"
  | .invertedBounds => "min repeat greater than max repeat"
  | .unexpectedEnd => "unexpected end of pattern"
  | .unknownExtension extension => "unknown extension " ++ extension
  | .unterminatedComment => "missing ), unterminated comment"
  | .unterminatedGroup => "missing ), unterminated subpattern"
  | .unbalancedParenthesis => "unbalanced parenthesis"
  | .badGroupName name => "bad character in group name " ++ Text.quoted name
  | .redefinedGroupName name group earlier =>
      "redefinition of group name " ++ Text.quoted name ++ " as group " ++ toString group ++
        "; was group " ++ toString earlier
  | .unknownGroupName name => "unknown group name " ++ Text.quoted name
  | .badGroupNumber => "bad group number"
  | .unknownGroup number => "invalid group reference " ++ toString number
  | .openGroup => "cannot refer to an open group"
  | .groupOfSameLookBehind =>
      "cannot refer to group defined in the same lookbehind subpattern"
  | .tooManyBranches => "conditional backref with more than two branches"
  | .misplacedGlobalFlags => "global flags not at the start of the expression"
  | .localeFlag => "bad inline flags: cannot use 'L' flag with a str pattern"
  | .conflictingFlags => "bad inline flags: flags 'a', 'u' and 'L' are incompatible"
  | .missingFlagsEnd => "missing -, : or )"
  | .unknownFlag => "unknown flag"
  | .missingFlag => "missing flag"
  | .missingColon => "missing :"
  | .unscopableFlagOn => "bad inline flags: cannot turn on global flag"
  | .unremovableFlag => "bad inline flags: cannot turn off flags 'a', 'u' and 'L'"
  | .unscopableFlagOff => "bad inline flags: cannot turn off global flag"
  | .flagOnAndOff => "bad inline flags: flag turned on and off"
  | .lookBehindTooFar => "looks too much behind"
  | .lookBehindNotFixed => "look-behind requires fixed-width pattern"
  | .refusedRepeat mode => "internal: unsupported template operator " ++ mode.operator

end Problem

/-- A demand that is well formed and yet refused. -/
inductive Limit where
  /-- The expression sets both flags that choose the character classes. -/
  | bothClasses
  /-- A repetition count is too large. -/
  | repeatCount
  /-- A code point is too large even to be compared with the last one. -/
  | codePoint
  /-- A number is written with too many digits. -/
  | digits (count : Nat)
  deriving DecidableEq, Repr

/-- The greatest number of digits that a number may be written with. -/
def maxDigits : Nat := 4300

def Limit.message : Limit -> String
  | .bothClasses => "ASCII and UNICODE flags are incompatible"
  | .repeatCount => "the repetition number is too large"
  | .codePoint => "Python int too large to convert to C int"
  | .digits count =>
      "Exceeds the limit (" ++ toString maxDigits ++
        " digits) for integer string conversion: value has " ++ toString count ++
        " digits; use sys.set_int_max_str_digits() to increase the limit"

/-- What stops the reading of an expression.  A position counts characters
from the start. -/
inductive Fault where
  | invalid (problem : Problem) (position : Option Nat)
  | refused (limit : Limit)
  deriving DecidableEq, Repr

structure Place where
  position : Nat
  lineAndColumn : Option (Nat × Nat)
  deriving DecidableEq, Repr

namespace Place

def of (text : List Char) (position : Nat) : Place :=
  let before := text.take position
  let column := (before.reverse.takeWhile fun character => character != '\n').length + 1
  { position
    lineAndColumn := if text.contains '\n' then some (before.count '\n' + 1, column) else none }

def message (place : Place) : String :=
  "at position " ++ toString place.position ++
    match place.lineAndColumn with
    | none => ""
    | some (line, column) =>
        " (line " ++ toString line ++ ", column " ++ toString column ++ ")"

end Place

/-- A problem and its place, for a problem that has one. -/
structure Diagnosis where
  problem : Problem
  place : Option Place
  deriving DecidableEq, Repr

def Diagnosis.message (diagnosis : Diagnosis) : String :=
  match diagnosis.place with
  | none => diagnosis.problem.message
  | some place => diagnosis.problem.message ++ " " ++ place.message

/-- Why a text is no expression. -/
inductive Error where
  | invalid (diagnosis : Diagnosis)
  | refused (limit : Limit)
  deriving DecidableEq, Repr

namespace Error

/-- The error that a fault is in the given text. -/
def ofFault (text : List Char) : Fault -> Error
  | .invalid problem position => .invalid ⟨problem, position.map (Place.of text)⟩
  | .refused limit => .refused limit

def message : Error -> String
  | .invalid diagnosis => diagnosis.message
  | .refused limit => limit.message

end Error

end Regex
end Stencil

import Stencil.Regex.Error
import Stencil.Template.Scanner

namespace Stencil

/-!
Everything that can go wrong beyond the reading of a single expression or
template, by cause.  Each failure has a text of its own; what the failure was
caused by, if anything, can be asked for.
-/

inductive ForeignKind where
  | null
  | truth
  | integer
  | real
  | list
  | record
  deriving DecidableEq, Repr

def ForeignKind.name : ForeignKind -> String
  | .null => "NoneType"
  | .truth => "bool"
  | .integer => "int"
  | .real => "float"
  | .list => "list"
  | .record => "dict"

/-- Why no value could be made for a placeholder. -/
inductive ValueFault where
  /-- There is no value, for the reason given. -/
  | unavailable (reason : String)
  /-- There is a value, but it is no text. -/
  | notText (kind : ForeignKind)
  deriving DecidableEq, Repr

def ValueFault.message : ValueFault -> String
  | .unavailable reason => reason
  | .notText kind => "can only concatenate str (not \"" ++ kind.name ++ "\") to str"

inductive Failure where
  /-- A text is no template; the text is named if it was one of several. -/
  | template (error : Template.SyntaxError) (named : Option String)
  | noMatch
  /-- The expression for a placeholder is invalid. -/
  | expression (name : String) (diagnosis : Regex.Diagnosis)
  /-- The expression for a placeholder is invalid without its groups. -/
  | dependentExpression (name : String) (diagnosis : Regex.Diagnosis)
  /-- The expression for a placeholder captures even without its groups. -/
  | capturingExpression (name : String)
  /-- The assembled expression is invalid. -/
  | assembled (diagnosis : Regex.Diagnosis)
  /-- An expression demands too much. -/
  | refused (limit : Regex.Limit)
  /-- A group name or a comment in an expression has no end. -/
  | unclosed
  | missingBinding (name : String)
  | unknownPlaceholder (name : String)
  /-- A transform cannot be reversed, perhaps because a placeholder is unknown. -/
  | notReversible (unknown : Option String)
  /-- No value could be made for a placeholder. -/
  | synthesis (name : String) (fault : ValueFault)
  /-- A value to be filled in is no text. -/
  | notText (kind : ForeignKind)
  | noSuchGroup
  | malformedAssignment (assignment : String)
  /-- The literals and placeholder names do not alternate. -/
  | unevenFragments
  | endOfInput
  /-- A visitor gave up a search. -/
  | visitor (reason : String)
  deriving DecidableEq, Repr

namespace Failure

/-- What is wrong with a template, without the place. -/
def templateMessage (error : Template.SyntaxError) : Option String -> String
  | none => error.problem.message
  | some text => "parsing `" ++ text ++ "`: " ++ error.problem.message

def message : Failure -> String
  | .template error named =>
      "error: " ++ templateMessage error named ++ " at " ++ toString error.offset
  | .noMatch => "error: string does not match pattern"
  | .expression name diagnosis =>
      "error: invalid expression for placeholder `" ++ name ++ "`: " ++ diagnosis.message
  | .dependentExpression name diagnosis =>
      "error: invalid expression for placeholder `" ++ name ++
        "` (cannot refer to groups within it): " ++ diagnosis.message
  | .capturingExpression name =>
      "error: invalid expression for placeholder `" ++ name ++
        "`: capturing groups could not be isolated"
  | .assembled diagnosis => "error: " ++ diagnosis.message
  | .refused limit => limit.message
  | .unclosed => "substring not found"
  | .missingBinding name => "error: missing binding for `" ++ name ++ "`"
  | .unknownPlaceholder name => "error: unknown placeholder `" ++ name ++ "`"
  | .notReversible _ => "error: transformation is not reversible"
  | .synthesis name fault => "error: binding `" ++ name ++ "`: " ++ fault.message
  | .notText kind => (ValueFault.notText kind).message
  | .noSuchGroup => "no such group"
  | .malformedAssignment assignment =>
      "error: assignment `" ++ assignment ++ "` is not of the form `NAME=VALUE`"
  | .unevenFragments =>
      "error: there must be exactly one more literal than placeholder names"
  | .endOfInput => "input ended before a value was entered"
  | .visitor reason => reason

/-- The failure of reading a regular expression.  What an invalid one means
depends on where it was read, and is given; what is refused is refused
everywhere alike. -/
def ofRegexError (invalid : Regex.Diagnosis -> Failure) : Regex.Error -> Failure
  | .invalid diagnosis => invalid diagnosis
  | .refused limit => .refused limit

end Failure

/-- What a computation gives that may fail. -/
abbrev Outcome := Except Failure

end Stencil

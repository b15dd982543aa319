import Stencil.Pattern.Basic

namespace Stencil

/-!
Transforms: rewriting what one pattern matches to what another one says.  The
right-hand pattern takes its expressions from the left-hand one.  A checked
transform uses every placeholder equally often on both sides, which is
necessary, though not sufficient, for undoing it by its reverse.

A transform is given by whatever stands for its patterns: the patterns
themselves, or their places in a workspace.
-/

structure Transform (Side : Type) where
  left : Side
  right : Side
  /-- Whether rewrites are reported. -/
  verbose : Bool
  /-- Whether the placeholders of both sides have been compared. -/
  checked : Bool
  deriving DecidableEq, Repr

/-- A match from `start` to `stop` and what it is rewritten to. -/
structure Rewrite where
  start : Nat
  stop : Nat
  text : String
  deriving DecidableEq, Repr

namespace Transform

def reverse {Side : Type} (transform : Transform Side) : Transform Side :=
  { transform with left := transform.right, right := transform.left }

def map {Side Other : Type} (convert : Side -> Other) (transform : Transform Side) :
    Transform Other where
  left := convert transform.left
  right := convert transform.right
  verbose := transform.verbose
  checked := transform.checked

/-- Adds to a template's failure which of the two templates it is. -/
def nameTemplate (text : String) : Failure -> Failure
  | .template error _ => .template error (some text)
  | failure => failure

/-- A checked transform reports an unknown placeholder on its right as not
reversible. -/
def refuseUnknown (checked : Bool) : Failure -> Failure
  | .unknownPlaceholder name =>
      if checked then .notReversible (some name) else .unknownPlaceholder name
  | failure => failure

def check (transform : Transform Pattern) : Outcome (Transform Pattern) :=
  if Binding.sameNames transform.left.bindings transform.right.bindings then
    .ok { transform with checked := true }
  else
    .error (.notReversible none)

/-- The transform between two templates, whose placeholders the bindings give
expressions.  The right-hand pattern is derived from the left-hand one, so it
can hold no name that the left one lacks. -/
def ofTemplates (checked : Bool) (left right : String)
    (bindings : List (Binding (Option String))) (verbose : Bool) : Outcome (Transform Pattern) := do
  let leftPattern ← (Pattern.parse left bindings).mapError (nameTemplate left)
  let rightPattern ←
    ((leftPattern.derive right).mapError (nameTemplate right)).mapError (refuseUnknown checked)
  let transform : Transform Pattern := ⟨leftPattern, rightPattern, verbose, false⟩
  if checked then transform.check else pure transform

/-- What a whole text is rewritten to.  The left-hand pattern must match all
of it. -/
def apply (transform : Transform Pattern) (text : String) : Outcome String := do
  let bindings ← transform.left.matchWhole text
  transform.right.apply bindings

/-- What a match of the left-hand pattern is rewritten to. -/
def rewrite (transform : Transform Pattern) (visit : Matcher.Visit) : Outcome Rewrite := do
  let text ← transform.right.apply visit.bindings
  pure ⟨visit.start, visit.stop, text⟩

/-- The text from `position` on with the rewrites made.  They follow one
another in the text, and what lies between them is kept. -/
def splice (text : Array Char) : (position : Nat) -> List Rewrite -> List Char
  | position, [] => (text.extract position text.size).toList
  | position, rewrite :: rest =>
      (text.extract position rewrite.start).toList ++ rewrite.text.toList ++
        splice text rewrite.stop rest

/-- The text with every match of the left-hand pattern rewritten.  All matches
are found, and all rewrites made, before any of them takes its place. -/
def replace (transform : Transform Pattern) (text : String) : Outcome String := do
  let visits ← transform.left.findAll text
  let rewrites ← visits.mapM transform.rewrite
  pure (String.ofList (splice text.toList.toArray 0 rewrites))

/-- How many symbols the lines have that divide a report. -/
def dividerLength : Nat := 48

def divider (symbol : Char) : String :=
  String.ofList (List.replicate dividerLength symbol)

def report (transform : Transform Pattern) (before after : String) : String :=
  let change := if before = after then " (no change)" else ""
  String.join [
    divider '<', " BEFORE `", transform.left.text, "`\n", before, "\n",
    divider '=', change, "\n", after, "\n",
    divider '>', " AFTER `", transform.right.text, "`\n", "\n\n\n\n\n"]

/-- What is reported of a rewrite that gave this outcome. -/
def reported (transform : Transform Pattern) (before : String) : Outcome String -> String
  | .ok after => if transform.verbose then transform.report before after else ""
  | .error _ => ""

end Transform

end Stencil

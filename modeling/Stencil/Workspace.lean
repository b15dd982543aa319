import Stencil.Transform

namespace Stencil

/-!
Workspaces: patterns that live on while they are used.  A pattern in a
workspace can be rebound, and it keeps its matcher once it has one.  Patterns
are named by their places, so two transforms may share a pattern and see each
other's changes.  The workspace also collects what is reported.

Every action either succeeds or fails; what it had changed before it failed
stays changed, and that is never more than a matcher being kept.
-/

structure Workspace where
  patterns : Array Pattern
  /-- The reports so far. -/
  transcript : String
  deriving DecidableEq, Repr

namespace Workspace

abbrev Place := Nat

/-- An action on a workspace that may fail.  What it has changed before it
fails stays changed. -/
abbrev Action := ExceptT Failure (StateM Workspace)

/-- An action on a workspace by someone with a memory: a visitor, or whoever
makes values. -/
abbrev Guest (Memory : Type) := StateT Memory (StateM Workspace)

def empty : Workspace := ⟨#[], ""⟩

/-- The pattern at a place; there is a blank one where none has been put. -/
def pattern (workspace : Workspace) (place : Place) : Pattern :=
  workspace.patterns.getD place .blank

def setPattern (workspace : Workspace) (place : Place) (pattern : Pattern) : Workspace :=
  { workspace with patterns := workspace.patterns.setIfInBounds place pattern }

def addPattern (workspace : Workspace) (pattern : Pattern) : Workspace :=
  { workspace with patterns := workspace.patterns.push pattern }

def appendReport (workspace : Workspace) (report : String) : Workspace :=
  { workspace with transcript := workspace.transcript ++ report }

def look (place : Place) : Action Pattern :=
  return (← get).pattern place

def add (pattern : Pattern) : Action Place := do
  let workspace ← get
  set (workspace.addPattern pattern)
  pure workspace.patterns.size

def parse (text : String) (bindings : List (Binding (Option String))) : Action Place := do
  add (← Pattern.parse text bindings)

/-- Reads another template into a new pattern with the expressions of the one
here. -/
def derive (place : Place) (text : String) : Action Place := do
  add (← (← look place).derive text)

/-- A new pattern like the one here.  It has rules of its own, so neither sees
what the other is bound to later. -/
def copy (place : Place) : Action Place := do
  add (← look place)

/-- Binds a placeholder of the pattern here. -/
def rebind (place : Place) (name : String) (expression : Option String) : Action Unit := do
  let pattern ← (← look place).rebind name expression
  modify fun workspace => workspace.setPattern place pattern

/-- Builds the matcher of the pattern here, unless it has one.  If none can be
built the pattern stays as it is. -/
def prepare (place : Place) (workspace : Workspace) : Workspace :=
  workspace.setPattern place (workspace.pattern place).compiled

/-- The matcher of the pattern here, which keeps it. -/
def compile (place : Place) : Action Matcher := do
  modify (prepare place)
  (← look place).compile

def matchWhole (place : Place) (text : String) : Action (List (Binding String)) := do
  modify (prepare place)
  (← look place).matchWhole text

def findAll (place : Place) (text : String) : Action (List Matcher.Visit) := do
  modify (prepare place)
  (← look place).findAll text

/-- Shows a visitor all matches of the pattern here.  The visitor may rebind
the pattern, but the search goes on with the matcher it has begun with. -/
def search {Memory : Type} (place : Place) (text : String)
    (visitor : Matcher.Visit -> Guest Memory Verdict) : Guest Memory (Report Matcher.Visit) := do
  modifyThe Workspace (prepare place)
  let pattern := (← getThe Workspace).pattern place
  pattern.search text .ok visitor

/-- The template of the pattern here, filled with values; `read` makes a text
of a value. -/
def applyWith {Value : Type} (place : Place) (read : Value -> Outcome String)
    (bindings : List (Binding Value)) : Action String := do
  (← look place).applyWith read bindings

/-- The template of the pattern here, filled with values that are made on
demand. -/
def applyFunction {Memory : Type} (place : Place)
    (value : String -> Nat -> Guest Memory (Except ValueFault String)) :
    Guest Memory (Outcome String) := do
  let pattern := (← getThe Workspace).pattern place
  (pattern.applyFunction value).run

/-- The transform with the patterns themselves. -/
def resolve (workspace : Workspace) (transform : Transform Place) : Transform Pattern :=
  transform.map workspace.pattern

/-- Puts both patterns of a transform at places of their own, so that it
shares them with no other. -/
def addTransform (transform : Transform Pattern) : Action (Transform Place) := do
  let left ← add transform.left
  let right ← add transform.right
  pure ⟨left, right, transform.verbose, transform.checked⟩

/-- A transform between two templates, with new patterns. -/
def transformOfTemplates (checked : Bool) (left right : String)
    (bindings : List (Binding (Option String))) (verbose : Bool) : Action (Transform Place) := do
  addTransform (← Transform.ofTemplates checked left right bindings verbose)

/-- The same transform of the same patterns, checked.  No pattern is copied,
so what is rebound later is seen through both. -/
def check (transform : Transform Place) : Action (Transform Place) := do
  let checked ← ((← get).resolve transform).check
  pure { transform with checked := checked.checked }

/-- Rewrites a text by `rewrite` and reports it if the transform is verbose.
A failure is not reported. -/
def rewriteBy (rewrite : Transform Pattern -> String -> Outcome String)
    (transform : Transform Place) (text : String) : Action String := do
  modify (prepare transform.left)
  let resolved := (← get).resolve transform
  let outcome := rewrite resolved text
  modify fun workspace => workspace.appendReport (resolved.reported text outcome)
  outcome

/-- What a whole text is rewritten to. -/
def applyTransform (transform : Transform Place) (text : String) : Action String :=
  rewriteBy Transform.apply transform text

def replace (transform : Transform Place) (text : String) : Action String :=
  rewriteBy Transform.replace transform text

/-- Shows a visitor what all matches of the left-hand pattern are rewritten
to.  Each is made by the right-hand pattern as it was when the search
began. -/
def searchRewrites {Memory : Type} (transform : Transform Place) (text : String)
    (visitor : Rewrite -> Guest Memory Verdict) : Guest Memory (Report Rewrite) := do
  modifyThe Workspace (prepare transform.left)
  let resolved := (← getThe Workspace).resolve transform
  resolved.left.search text resolved.rewrite visitor

end Workspace

end Stencil

import Stencil.Matcher
import Stencil.Rules
import Stencil.Template.Scanner

namespace Stencil

/-!
Patterns: templates whose placeholders are bound to expressions.  Matched
against a text, a pattern yields what its placeholders stand for; applied to
such bindings, it yields a text.

A pattern keeps the matcher for its present rules once it has been built.
Rebinding a rule discards the matcher, so a matcher that is kept is always the
one that would be built anew.
-/

structure Pattern where
  /-- The text of the template. -/
  text : String
  template : Template
  rules : Rules
  /-- The matcher for the rules, if it has been built. -/
  matcher : Option Matcher
  deriving DecidableEq, Repr

namespace Pattern

/-- The pattern of a template, given the expressions for its placeholders.  No
matcher is built before one is asked for. -/
def ofTemplate (text : String) (template : Template) (expression : String -> Option String) :
    Pattern :=
  ⟨text, template, .ofNames template.names expression, none⟩

/-- The template in a text. -/
def templateOf (text : String) : Outcome Template :=
  (Template.parse text).mapError fun error => .template error none

/-- The pattern of the empty template. -/
def blank : Pattern :=
  .ofTemplate "" ⟨[], ""⟩ fun _ => none

def fragments (pattern : Pattern) : List Fragment :=
  pattern.template.fragments

def names (pattern : Pattern) : List String :=
  pattern.rules.names

def isCompiled (pattern : Pattern) : Bool :=
  pattern.matcher.isSome

/-- The expression for every placeholder occurrence, empty where there is
none.  A name that occurs twice is listed twice. -/
def bindings (pattern : Pattern) : List (Binding String) :=
  pattern.template.names.map fun name => ⟨name, (pattern.rules.expression? name).getD ""⟩

/-- Binds a placeholder to another expression, or to none.  A name that the
template does not hold is refused; the matcher in hand is given up. -/
def rebind (pattern : Pattern) (name : String) (expression : Option String) : Outcome Pattern :=
  if pattern.rules.has name then
    .ok { pattern with rules := pattern.rules.rebind name expression, matcher := none }
  else
    .error (.unknownPlaceholder name)

/-- Binds several placeholders, in order. -/
def rebindAll (pattern : Pattern) (bindings : List (Binding (Option String))) : Outcome Pattern :=
  bindings.foldlM (fun pattern binding => pattern.rebind binding.name binding.value) pattern

/-- Reads a template and binds its placeholders. -/
def parse (text : String) (bindings : List (Binding (Option String))) : Outcome Pattern := do
  let template ← templateOf text
  (ofTemplate text template fun _ => none).rebindAll bindings

/-- Reads another template, whose placeholders keep the expressions they have
in this pattern.  A name that this pattern lacks is refused. -/
def derive (pattern : Pattern) (text : String) : Outcome Pattern := do
  let template ← templateOf text
  match template.names.find? fun name => !pattern.rules.has name with
  | some name => throw (.unknownPlaceholder name)
  | none => pure (ofTemplate text template pattern.rules.expression?)

/-- The matcher for the present rules, the one in hand if there is one. -/
def compile (pattern : Pattern) : Outcome Matcher :=
  match pattern.matcher with
  | some matcher => .ok matcher
  | none => Matcher.ofFragments pattern.rules.expression? pattern.fragments

/-- The pattern with its matcher, if one can be built. -/
def compiled (pattern : Pattern) : Pattern :=
  match pattern.compile with
  | .ok matcher => { pattern with matcher := some matcher }
  | .error _ => pattern

/-- What the placeholder occurrences stand for in a text that the pattern
matches. -/
def matchWhole (pattern : Pattern) (text : String) : Outcome (List (Binding String)) := do
  let matcher ← pattern.compile
  matcher.matchWhole text

/-- All matches in a text, from left to right.  They do not overlap. -/
def findAll (pattern : Pattern) (text : String) : Outcome (List Matcher.Visit) := do
  let matcher ← pattern.compile
  matcher.findAll text

/-- Shows a visitor what is made of the matches in a text, from left to right
and each before the next one is looked for.  The matcher is the one that the
pattern has when the search begins. -/
def search {Action : Type -> Type} [Monad Action] {Item : Type} (pattern : Pattern) (text : String)
    (make : Matcher.Visit -> Outcome Item) (visitor : Item -> Action Verdict) : Action (Report Item) :=
  match pattern.compile with
  | .error failure => pure ⟨[], .error failure⟩
  | .ok matcher => matcher.searchFrom text.toList.toArray make visitor 0 false

/-- Writes the fragments behind what is written.  Every placeholder takes a
value from the queue of its name: the one its cursor points at, or the last
one once the cursor has come to the end.  `read` makes a text of a value. -/
def substitute {Value : Type} (read : Value -> Outcome String) (queues : Dictionary (List Value)) :
    (cursors : Dictionary Nat) -> (written : String) -> List Fragment -> Outcome String
  | _, written, [] => .ok written
  | cursors, written, .literal text :: rest =>
      substitute read queues cursors (written ++ text) rest
  | cursors, written, .placeholder name :: rest =>
      match (queues.get? name).getD [] with
      | [] => .error (.missingBinding name)
      | first :: others => do
          let cursor := (cursors.get? name).getD 0
          have inside : min cursor others.length < (first :: others).length :=
            Nat.lt_succ_of_le (Nat.min_le_right _ _)
          let text ← read (first :: others)[min cursor others.length]
          substitute read queues (cursors.set name (cursor + 1)) (written ++ text) rest

/-- Fills the template with values.  Each occurrence of a placeholder takes
the next value bound to its name, and the last one once they are used up. -/
def applyWith {Value : Type} (pattern : Pattern) (read : Value -> Outcome String)
    (bindings : List (Binding Value)) : Outcome String :=
  substitute read (Binding.queues bindings) .empty "" pattern.fragments

/-- Fills the template with texts. -/
def apply (pattern : Pattern) (bindings : List (Binding String)) : Outcome String :=
  pattern.applyWith .ok bindings

/-- A value that ought to be a text. -/
def readOptional : Option String -> Outcome String
  | none => .error (.notText .null)
  | some text => .ok text

section

variable {Action : Type -> Type} [Monad Action]
  (value : String -> Nat -> Action (Except ValueFault String))

/-- The text made for an occurrence of a placeholder, or the failure that
there is none.  Whatever is made has to be a text. -/
def filler (name : String) (occurrence : Nat) : ExceptT Failure Action String :=
  ExceptT.mk do
    match ← value name occurrence with
    | .ok text => pure (.ok text)
    | .error fault => pure (.error (.synthesis name fault))

/-- Writes the fragments behind what is written.  The text for every
placeholder is made when its turn comes, from its name and the number of its
occurrence, counted from one. -/
def synthesise : (counts : Dictionary Nat) -> (written : String) -> List Fragment ->
    ExceptT Failure Action String
  | _, written, [] => pure written
  | counts, written, .literal text :: rest => synthesise counts (written ++ text) rest
  | counts, written, .placeholder name :: rest => do
      let count := (counts.get? name).getD 0 + 1
      let text ← filler value name count
      synthesise (counts.set name count) (written ++ text) rest

/-- Fills the template with texts made on demand.  What makes them may act on
its surroundings, and is asked no more once it has refused. -/
def applyFunction (pattern : Pattern) : ExceptT Failure Action String :=
  synthesise value .empty "" pattern.fragments

end

end Pattern

end Stencil

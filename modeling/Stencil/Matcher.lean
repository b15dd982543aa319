import Stencil.Binding
import Stencil.Isolation
import Stencil.Regex.Quote
import Stencil.Regex.Search
import Stencil.Template.Basic
import Stencil.Visit

namespace Stencil

/-!
Matchers: one regular expression for a whole sequence of fragments.  Literals
are quoted, and every placeholder occurrence becomes a named group around the
isolated expression for it.  The names that groups may have are few, and all
must differ, while placeholders have many names and may be repeated; so the
groups are named by their position, and the matcher keeps the placeholder
names beside them.
-/

structure Matcher where
  regex : Regex
  /-- The names of the groups for the placeholder occurrences, in order. -/
  groupNames : List String
  /-- The names of those placeholders. -/
  placeholderNames : List String
  deriving DecidableEq, Repr

namespace Matcher

def groupPrefix : String := "p"

/-- The name of the group for the placeholder occurrence with this index,
counted from zero. -/
def groupName (index : Int) : String :=
  groupPrefix ++ toString index

/-- The isolated expression for a placeholder.  An empty expression is none,
and then the name counts as missing. -/
def isolatedRule (rules : String -> Option String) (name : String) : Outcome String :=
  match rules name with
  | none => .error (.missingBinding name)
  | some expression =>
      if expression.isEmpty then .error (.missingBinding name) else isolate name expression

/-- The isolated expression for a placeholder, looked up among those known if
it is one of them.  Each name is isolated once, whatever the number of its
occurrences. -/
def isolatedOnce (rules : String -> Option String) (known : List (String × String))
    (name : String) : Outcome String :=
  match known.lookup name with
  | some isolated => .ok isolated
  | none => isolatedRule rules name

/-- The text of the regular expression for fragments before which `count`
placeholders stand.  What has been isolated for one occurrence of a name is
known for the next. -/
def assembledText (rules : String -> Option String) :
    (known : List (String × String)) -> (count : Nat) -> List Fragment -> Outcome String
  | _, _, [] => pure ""
  | known, count, .literal text :: rest => do
      let later ← assembledText rules known count rest
      pure (Regex.quote text ++ later)
  | known, count, .placeholder name :: rest => do
      let isolated ← isolatedOnce rules known name
      let later ← assembledText rules ((name, isolated) :: known) (count + 1) rest
      pure ("(?P<" ++ groupName count ++ ">" ++ isolated ++ ")" ++ later)

/-- The matcher for a sequence of fragments, given the expressions for its
placeholders.  Each occurrence has a group of its own, and the group is not
part of the expression that stands in it. -/
def ofFragments (rules : String -> Option String) (fragments : List Fragment) :
    Outcome Matcher := do
  let text ← assembledText rules [] 0 fragments
  let regex ← (Regex.compile text).mapError (Failure.ofRegexError .assembled)
  let names := Fragment.names fragments
  let groupNames := (List.range names.length).map fun (index : Nat) => groupName index
  pure ⟨regex, groupNames, names⟩

/-- What the group has captured, as a binding of the placeholder.  It is
nothing if the group took no part in the match. -/
def capturedBinding? (matcher : Matcher) (text : Array Char) (found : Regex.Match)
    (groupName placeholderName : String) : Outcome (Option (Binding String)) :=
  match matcher.regex.groupNamed? groupName with
  | none => .error .noSuchGroup
  | some group => .ok <|
      (found.captured? group).map fun (first, last) =>
        ⟨placeholderName, String.ofList (text.extract first last).toList⟩

/-- A binding for every placeholder occurrence that took part in the match, in
order. -/
def bindings (matcher : Matcher) (text : Array Char) (found : Regex.Match) :
    Outcome (List (Binding String)) :=
  (matcher.groupNames.zip matcher.placeholderNames).filterMapM fun (groupName, placeholderName) =>
    matcher.capturedBinding? text found groupName placeholderName

/-- The bindings if the whole text matches. -/
def matchWhole? (matcher : Matcher) (text : String) : Outcome (Option (List (Binding String))) :=
  let characters := text.toList.toArray
  match matcher.regex.matchWhole? characters with
  | none => .ok none
  | some found => (matcher.bindings characters found).map some

/-- The bindings if the whole text matches, which it must. -/
def matchWhole (matcher : Matcher) (text : String) : Outcome (List (Binding String)) := do
  match ← matcher.matchWhole? text with
  | some bindings => pure bindings
  | none => throw .noMatch

/-- A match with its bindings. -/
structure Visit where
  start : Nat
  stop : Nat
  bindings : List (Binding String)
  deriving DecidableEq, Repr

/-- What a search shows of a match: where it is, and what its groups have
captured. -/
def visitOf (matcher : Matcher) (text : Array Char) (found : Regex.Match) : Outcome Visit := do
  let bindings ← matcher.bindings text found
  pure ⟨found.start, found.stop, bindings⟩

/-- All matches in the text, from left to right. -/
def findAll (matcher : Matcher) (text : String) : Outcome (List Visit) :=
  let characters := text.toList.toArray
  (matcher.regex.findAll characters).mapM (matcher.visitOf characters)

/-- Shows a visitor what is made of the matches at `start` or later, the first
of which must not be empty at `start` if `nonEmpty` is set.  The next match is
looked for only when the visitor has said to go on, and a match of which
nothing can be made ends the search. -/
def searchFrom {Action : Type -> Type} [Monad Action] {Item : Type} (matcher : Matcher)
    (text : Array Char) (make : Visit -> Outcome Item) (visitor : Item -> Action Verdict)
    (start : Nat) (nonEmpty : Bool) : Action (Report Item) :=
  match _ : matcher.regex.search? text start nonEmpty with
  | none => pure ⟨[], .ok ()⟩
  | some found =>
      showThen visitor (matcher.visitOf text found >>= make) fun _ =>
        searchFrom matcher text make visitor found.stop found.isEmpty
termination_by Regex.remaining text start nonEmpty
decreasing_by exact Regex.remaining_lt_of_search?_eq_some ‹_›

end Matcher

end Stencil

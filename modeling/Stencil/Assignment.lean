import Stencil.Binding
import Stencil.Failure
import Stencil.Regex.Search

namespace Stencil

/-!
Assignments `NAME=VALUE`.  The text is taken apart by a regular expression:
the name is as long as it can be made of pairs of a backslash and an equals
sign and of characters that are no equals signs, and the value is all that
follows the equals sign behind it.  In the name the pairs then stand for
equals signs.
-/

namespace Assignment

/-- The regular expression of an assignment, as it is written.  It is the text
that `form` comes from; the two are tied together by `compile_formText`. -/
def formText : String :=
  "(?x) (?P<name> (?: [\\\\] [=] | [^=] )+ ) [=] (?P<value> [\\s\\S]* )"

def nameItem : Regex.Expr :=
  .alt (.seq (.literal false '\\'.toNat) (.literal false '='.toNat)) (.literal true '='.toNat)

/-- Any character, a line feed included. -/
def valueItem : Regex.Expr :=
  .set false [.category ⟨.space, false⟩, .category ⟨.space, true⟩]

def form : Regex where
  text := formText
  flags := { verbose := true, unicode := true }
  groups := 2
  names := [("value", 2), ("name", 1)]
  body := .seq (.capture 1 (.repeated .greedy 1 none nameItem))
    (.seq (.literal false '='.toNat) (.capture 2 (.repeated .greedy 0 none valueItem)))

theorem compile_formText : (Regex.compile formText).toOption = some form := by
  decide +kernel

/-- What the group with that name has captured, as characters of the text that
was matched. -/
def part? (text : Array Char) (found : Regex.Match) (group : String) : Option (List Char) := do
  let number ← form.groupNamed? group
  let (first, last) ← found.captured? number
  pure (text.extract first last).toList

/-- The name, still escaped, and the value.  The whole text has to match, so
that a value may hold further equals signs but a name may not be empty. -/
def split? (text : List Char) : Option (List Char × List Char) := do
  let characters := text.toArray
  let found ← form.matchWhole? characters
  let name ← part? characters found "name"
  let value ← part? characters found "value"
  pure (name, value)

/-- Replaces every backslash that stands before an equals sign, and the sign,
by the sign. -/
def unescape : List Char -> List Char
  | [] => []
  | '\\' :: '=' :: rest => '=' :: unescape rest
  | character :: rest => character :: unescape rest

/-- Reads an assignment.  Only the name is unescaped: backslashes in a value
stand for themselves. -/
def parse (text : String) : Outcome (Binding String) :=
  match split? text.toList with
  | some (name, value) => .ok ⟨String.ofList (unescape name), String.ofList value⟩
  | none => .error (.malformedAssignment text)

/-- Reads several assignments, in order.  The first one that is malformed ends
the reading. -/
def parseAll (texts : List String) : Outcome (List (Binding String)) :=
  texts.mapM parse

end Assignment

end Stencil

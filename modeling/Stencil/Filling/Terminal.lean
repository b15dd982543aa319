import Stencil.Filling
import Stencil.Text.LineEnd

namespace Stencil
namespace Filling

/-!
Answering at a terminal.  Each question is shown, and the next line is the
answer; an empty line is refused and the question asked again.  What is typed
is given here as one text, whose lines end by line feeds.
-/

structure Terminal where
  /-- What has not been read yet. -/
  input : List Char
  /-- What has been shown. -/
  shown : String
  deriving DecidableEq, Repr

namespace Terminal

/-- What stands between a question and the place for its answer. -/
def questionEnd : String := ": "

/-- What is shown when an empty line is refused. -/
def refusal : String := "Please enter a non-empty string\n"

/-- The line without its line feed. -/
def lineContent (line : List Char) : List Char :=
  line.takeWhile fun character => character != '\n'

/-- Asks until there is an answer or the input ends.  An empty line is no
answer: it is refused and the same question is put again. -/
def askFrom (question shown : String) : (input : List Char) -> Outcome String × Terminal
  | [] => (.error .endOfInput, ⟨[], shown ++ question ++ questionEnd⟩)
  | character :: rest =>
      let line := Text.readLine (character :: rest)
      let shownNow := shown ++ question ++ questionEnd
      match lineContent line.1 with
      | [] => askFrom question (shownNow ++ refusal) line.2
      | answer => (.ok (String.ofList answer), ⟨line.2, shownNow⟩)
termination_by input => input.length
decreasing_by exact Text.length_readLine_lt character rest

def ask (question : String) : StateM Terminal (Outcome String) := fun terminal =>
  askFrom question terminal.shown terminal.input

end Terminal

end Filling
end Stencil

import Stencil.Assignment
import Stencil.CommandLine.Arguments
import Stencil.CommandLine.File
import Stencil.Filling.Terminal
import Stencil.Transform

namespace Stencil
namespace CommandLine

/-!
Running the command.  The arguments are read first, then the assignments in
them, then the file; only then is anything filled in or rewritten.  What the
command writes appears on its output only if it succeeds.  A failure that it
expects is told in one line, one that it does not expect is left to its
surroundings.
-/

/-- An end that the command does not expect. -/
inductive Crash where
  | blocked (name : String) (obstacle : Obstacle)
  | undecodable (fault : Text.Utf8.Fault)
  | failure (failure : Failure)
  deriving DecidableEq, Repr

def Crash.message : Crash -> String
  | .blocked name obstacle => obstacle.message name
  | .undecodable fault => fault.message
  | .failure cause => cause.message

/-- How a run ends.  Nothing but questions is written before the end is known,
so both outputs are complete. -/
structure Ending where
  exitCode : Nat
  /-- What is written to the output. -/
  output : String
  /-- What is written to the error output, after any questions. -/
  errors : String
  crash : Option Crash
  deriving DecidableEq, Repr

namespace Ending

def failureCode : Nat := 1

def mistakeCode : Nat := 2

def success (output errors : String) : Ending := ⟨0, output, errors, none⟩

def mistake (message : String) : Ending := ⟨mistakeCode, "", message ++ "\n", none⟩

def crashed (crash : Crash) : Ending := ⟨failureCode, "", "", some crash⟩

/-- Whether the command expects the failure.  Any other failure is a crash,
and the command prints no message of its own for it. -/
def isExpected : Failure -> Bool
  | .refused _ => false
  | .unclosed => false
  | .notText _ => false
  | .noSuchGroup => false
  | .malformedAssignment _ => false
  | .unevenFragments => false
  | .visitor _ => false
  | _ => true

def failed : Failure -> Ending
  | .endOfInput => ⟨failureCode, "", "error: " ++ Failure.endOfInput.message ++ "\n", none⟩
  | failure =>
      if isExpected failure then ⟨failureCode, "", failure.message ++ "\n", none⟩
      else crashed (.failure failure)

def halted (halt : Halt) : Ending :=
  match halt with
  | .help => success help ""
  | .version => success versionLine ""
  | halt =>
      ⟨mistakeCode, "",
        usage ++ programName ++ ": error: " ++ halt.problem?.getD "" ++ "\n", none⟩

end Ending

/-- What the command needs of its surroundings: files to read, and someone to
ask.  The action they take place in is left open. -/
structure Console (Action : Type -> Type) where
  /-- Reads a file. -/
  readFile : String -> Action ReadResult
  /-- Asks for a value. -/
  ask : String -> Action (Outcome String)

/-- The arguments with their assignments read, so that nothing in the command
line can be malformed any longer. -/
structure Order where
  values : List (Binding String)
  expressions : List (Binding String)
  arguments : Arguments
  deriving DecidableEq, Repr

/-- Whether the arguments ask for a rewriting without saying what to
rewrite. -/
def wantsTemplates (arguments : Arguments) : Bool :=
  arguments.templates.isNone &&
    (!arguments.expressions.isEmpty || arguments.checkReversible || arguments.reverse)

/-- Reads the arguments and the assignments in them. -/
def order (arguments : List String) : Except Ending Order := do
  let arguments ← (parseArguments arguments).mapError Ending.halted
  let mistaken (failure : Failure) : Ending := .mistake failure.message
  let values ← (Assignment.parseAll arguments.values).mapError mistaken
  let expressions ← (Assignment.parseAll arguments.expressions).mapError mistaken
  if wantsTemplates arguments then
    throw (.mistake "error: options -e, -c, and -R can only be used with option -t")
  pure ⟨values, expressions, arguments⟩

/-- The text in a file, or the end of the run if there is none. -/
def textOf (name : String) : ReadResult -> Except Ending String
  | .missing => .error (.mistake ("error: file `" ++ name ++ "` not found"))
  | .blocked obstacle => .error (.crashed (.blocked name obstacle))
  | .bytes bytes =>
      match Text.Utf8.decode bytes with
      | .ok characters => .ok (String.ofList (Text.normalizeLineEnds characters))
      | .error fault => .error (.crashed (.undecodable fault))

/-- Rewrites a text from one template to the other and reports it if that is
wanted. -/
def rewriteText (text left right : String) (expressions : List (Binding (Option String)))
    (checkReversible reverse verbose : Bool) : Outcome (String × String) := do
  let transform ← Transform.ofTemplates checkReversible left right expressions verbose
  let directed := if reverse then transform.reverse else transform
  let rewritten ← directed.replace text
  pure (rewritten, directed.reported text (.ok rewritten))

/-- Expressions are given for good: none is absent. -/
def givenExpressions (bindings : List (Binding String)) : List (Binding (Option String)) :=
  bindings.map fun binding => ⟨binding.name, some binding.value⟩

variable {Action : Type -> Type} [Monad Action]

/-- Carries out an order, the text of its file being given. -/
def carryOut (ask : String -> Action (Outcome String)) (order : Order) (text : String) :
    Action Ending := do
  match order.arguments.templates with
  | none =>
      match ← (Filling.fill ask text order.values).run with
      | .ok filled => pure (.success filled "")
      | .error failure => pure (.failed failure)
  | some (left, right) =>
      match rewriteText text left right (givenExpressions order.expressions)
          order.arguments.checkReversible order.arguments.reverse order.arguments.verbose with
      | .ok (rewritten, report) => pure (.success rewritten report)
      | .error failure => pure (.failed failure)

/-- Runs the command.  Assignments are read before the file is opened, and the
file is read before anyone is asked for a value. -/
def run (console : Console Action) (arguments : List String) : Action Ending := do
  match order arguments with
  | .error ending => pure ending
  | .ok order =>
      match textOf order.arguments.file (← console.readFile order.arguments.file) with
      | .error ending => pure ending
      | .ok text => carryOut console.ask order text

/-- A console with a folder and with its input given. -/
def folderConsole (folder : Folder) : Console (StateM Filling.Terminal) where
  readFile name := pure (folder.read name)
  ask := Filling.Terminal.ask

/-- Runs the command in a folder with the given input.  The error output
begins with what has been shown to ask for values. -/
def runIn (folder : Folder) (input : String) (arguments : List String) : Ending :=
  let (ending, terminal) := run (folderConsole folder) arguments
    ⟨Text.normalizeLineEnds input.toList, ""⟩
  { ending with errors := terminal.shown ++ ending.errors }

end CommandLine
end Stencil

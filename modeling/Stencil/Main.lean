import Stencil.CommandLine.Run

/-!
The command itself: it reads real files, asks at the real terminal, and leaves
by an exit code.
-/

namespace Stencil
namespace CommandLine

def readFile (name : String) : IO ReadResult := do
  try
    let bytes ← IO.FS.readBinFile name
    pure (.bytes bytes.toList)
  catch
    | .noFileOrDirectory .. => pure .missing
    | .inappropriateType .. => pure (.blocked .directory)
    | problem => throw problem

/-- Asks at the terminal until there is an answer or the input ends. -/
partial def askAtTerminal (question : String) : IO (Outcome String) := do
  let errors ← IO.getStderr
  errors.putStr (question ++ Filling.Terminal.questionEnd)
  errors.flush
  let line ← (← IO.getStdin).getLine
  if line.isEmpty then
    pure (.error .endOfInput)
  else
    match Filling.Terminal.lineContent (Text.normalizeLineEnds line.toList) with
    | [] =>
        errors.putStr Filling.Terminal.refusal
        askAtTerminal question
    | answer => pure (.ok (String.ofList answer))

def terminalConsole : Console IO where
  readFile := readFile
  ask := askAtTerminal

/-- Writes what a run leaves to be written, a crash last, and gives its exit
code. -/
def leave (ending : Ending) : IO UInt32 := do
  IO.print ending.output
  IO.eprint ending.errors
  match ending.crash with
  | some crash => IO.eprintln crash.message
  | none => pure ()
  pure ending.exitCode.toUInt32

end CommandLine
end Stencil

def main (arguments : List String) : IO UInt32 := do
  Stencil.CommandLine.leave
    (← Stencil.CommandLine.run Stencil.CommandLine.terminalConsole arguments)

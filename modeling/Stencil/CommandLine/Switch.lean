namespace Stencil
namespace CommandLine

/-!
The switches of the command line, with the parameters each takes, and the
texts that describe them.  The usage and help texts are laid out from this
table for a screen of fixed width.
-/

inductive Switch where
  | help
  | version
  | bind
  | transform
  | expression
  | checkReversible
  | reverse
  | verbose
  deriving DecidableEq, Repr

def programName : String := "patternword"

def programVersion : String := "1.0.0"

/-- What the only argument that belongs to no switch is called. -/
def fileParameter : String := "file"

namespace Switch

/-- All switches, in the order in which they are shown. -/
def all : List Switch :=
  [.help, .version, .bind, .transform, .expression, .checkReversible, .reverse, .verbose]

def letter : Switch -> Char
  | .help => 'h'
  | .version => 'v'
  | .bind => 'b'
  | .transform => 't'
  | .expression => 'e'
  | .checkReversible => 'c'
  | .reverse => 'R'
  | .verbose => 'x'

def word : Switch -> String
  | .help => "help"
  | .version => "version"
  | .bind => "bind"
  | .transform => "transform"
  | .expression => "expression"
  | .checkReversible => "check-reversible"
  | .reverse => "reverse"
  | .verbose => "verbose"

def parameters : Switch -> List String
  | .bind => ["NAME=VALUE"]
  | .transform => ["LHS", "RHS"]
  | .expression => ["NAME=EXPR"]
  | _ => []

def description : Switch -> String
  | .help => "show this help message and exit"
  | .version => "show program's version number and exit"
  | .bind =>
      "supply a value for a placeholder instead of being prompted for it (repeatable; repeated " ++
        "values for a name fill its occurrences in order)"
  | .transform => "rewrite every match of template LHS in the file to template RHS"
  | .expression => "bind a placeholder of LHS to a regular expression (repeatable)"
  | .checkReversible => "refuse a transformation that is not reversible"
  | .reverse => "rewrite from RHS to LHS instead"
  | .verbose => "run in verbose mode (prints every rewrite applied)"

def short (switch : Switch) : String :=
  String.ofList ['-', switch.letter]

def long (switch : Switch) : String :=
  "--" ++ switch.word

def title (switch : Switch) : String :=
  switch.short ++ "/" ++ switch.long

/-- A spelling with the parameters after it. -/
def withParameters (switch : Switch) (spelling : String) : String :=
  " ".intercalate (spelling :: switch.parameters)

end Switch

/-! ## Laying out text
-/

def textWidth : Nat := 78

def descriptionColumn : Nat := 24

def switchColumn : Nat := 2

def spaces (count : Nat) : String :=
  String.ofList (List.replicate count ' ')

/-- Fills lines with words.  A word begins a new line if it would make `line`
too long; a word that is too long by itself is not broken. -/
def fillLines (width : Nat) : (line : String) -> List String -> List String
  | line, [] => [line]
  | line, word :: rest =>
      if width < line.length + 1 + word.length then line :: fillLines width word rest
      else fillLines width (line ++ " " ++ word) rest

/-- The words in lines of at most `width` columns. -/
def wrapWords (width : Nat) : List String -> List String
  | [] => []
  | word :: rest => fillLines width word rest

def wrapText (width : Nat) (text : String) : List String :=
  wrapWords width ((text.toList.splitOn ' ').map String.ofList)

def asLines (lines : List String) : String :=
  String.join (lines.map fun line => line ++ "\n")

/-- The switches and the file, as a call shows them. -/
def usage : String :=
  let opening := "usage: " ++ programName
  let indent := spaces (opening.length + 1)
  let calls := Switch.all.map fun switch => "[" ++ switch.withParameters switch.short ++ "]"
  match wrapWords (textWidth - indent.length) calls with
  | [] => opening ++ "\n"
  | first :: rest =>
      asLines ((opening ++ " " ++ first) :: (rest ++ [fileParameter]).map (indent ++ ·))

/-- An entry of the help text: what is described, and its description beside
it.  The description moves below an entry that reaches its column. -/
def helpEntry (entry text : String) : String :=
  let indent := spaces descriptionColumn
  let described := spaces switchColumn ++ entry
  let lines := wrapText (textWidth - descriptionColumn) text
  if described.length + 2 ≤ descriptionColumn then
    match lines with
    | [] => described ++ "\n"
    | first :: rest =>
        asLines ((described ++ spaces (descriptionColumn - described.length) ++ first) ::
          rest.map (indent ++ ·))
  else
    asLines (described :: lines.map (indent ++ ·))

def programDescription : String :=
  "Fill in the placeholders of a template, or rewrite text from one template to another."

def fileDescription : String :=
  "name of file containing the template to be filled in (or, with -t, the text to be rewritten)"

def Switch.helpEntry (switch : Switch) : String :=
  CommandLine.helpEntry
    (switch.withParameters switch.short ++ ", " ++ switch.withParameters switch.long)
    switch.description

def help : String :=
  String.join [
    usage, "\n", asLines (wrapText textWidth programDescription), "\n",
    "positional arguments:\n", helpEntry fileParameter fileDescription, "\n",
    "options:\n", String.join (Switch.all.map Switch.helpEntry)]

def versionLine : String :=
  programName ++ " version " ++ programVersion ++ "\n"

end CommandLine
end Stencil

import Stencil.CommandLine.Switch
import Stencil.Text.Digit
import Stencil.Text.Quoted

namespace Stencil
namespace CommandLine

/-!
Reading the arguments.  Each argument is first taken by itself: as a switch,
as the separator `--` after which no argument is a switch, or as plain text.
A switch may be shortened as long as it stays clear which one is meant.  Then
the switches take their parameters from what follows them; of the text left
over the first is the file, and there must not be more.

Several short switches may share one argument, and the last of them may have
its parameter there.
-/

/-- What the arguments ask for.  A switch that is given again adds to what it
gave before, or takes its place. -/
structure Arguments where
  /-- The assignments of values and of expressions. -/
  values : List String
  expressions : List String
  /-- The templates to rewrite from and to. -/
  templates : Option (String × String)
  checkReversible : Bool
  reverse : Bool
  verbose : Bool
  file : String
  deriving DecidableEq, Repr

inductive Halt where
  | help
  | version
  | ambiguous (argument : String) (candidates : List Switch)
  | wantedParameters (switch : Switch)
  | ignoredParameter (switch : Switch) (parameter : String)
  | missingFile
  | unrecognized (arguments : List String)
  deriving DecidableEq, Repr

namespace Halt

def problem? : Halt -> Option String
  | .help => none
  | .version => none
  | .ambiguous argument candidates =>
      some ("ambiguous option: " ++ argument ++ " could match " ++
        ", ".intercalate (candidates.map Switch.long))
  | .wantedParameters switch =>
      some ("argument " ++ switch.title ++ ": expected " ++
        (if switch.parameters.length = 1 then "one argument"
        else toString switch.parameters.length ++ " arguments"))
  | .ignoredParameter switch parameter =>
      some ("argument " ++ switch.title ++ ": ignored explicit argument " ++ Text.quoted parameter)
  | .missingFile => some ("the following arguments are required: " ++ fileParameter)
  | .unrecognized arguments => some ("unrecognized arguments: " ++ " ".intercalate arguments)

end Halt

/-! ## Taking arguments one by one
-/

/-- What is written in the same argument as a switch, after it. -/
structure Attachment where
  /-- Whether an equals sign stands before the text. -/
  equals : Bool
  text : List Char
  deriving DecidableEq, Repr

inductive Item where
  | text (argument : String)
  | separator
  | switch (switch : Switch) (isShort : Bool) (attached : Option Attachment)
  | unknownSwitch (argument : String)
  deriving DecidableEq, Repr

namespace Item

/-- Splits a text at its first equals sign, which belongs to neither side. -/
def splitAtEquals : List Char -> List Char × Option Attachment
  | [] => ([], none)
  | character :: rest =>
      if character = '=' then ([], some ⟨true, rest⟩)
      else
        let (before, attached) := splitAtEquals rest
        (character :: before, attached)

def ofLetter? (letter : Char) : Option Switch :=
  Switch.all.find? fun switch => switch.letter == letter

/-- Whether the text, which begins with a hyphen, is a negative number. -/
def isNegativeNumber (text : List Char) : Bool :=
  let body := text.drop 1
  let body := if body.getLast? == some '\n' then body.dropLast else body
  let isDigit (character : Char) : Bool := Text.isDecimalDigit character.toNat
  match body.dropWhile isDigit with
  | [] => !body.isEmpty
  | '.' :: fraction => !fraction.isEmpty && fraction.all isDigit
  | _ => false

/-- What an argument is that begins with a hyphen and names no switch.
Negative numbers, and whatever holds a blank, are text all the same. -/
def unnamed (argument : String) : Item :=
  if isNegativeNumber argument.toList || argument.toList.contains ' ' then .text argument
  else .unknownSwitch argument

/-- The item that an argument beginning with two hyphens is; `body` follows
these. -/
def ofLong (argument : String) (body : List Char) : Except Halt Item :=
  let (name, attached) := splitAtEquals body
  match Switch.all.find? fun switch => switch.word.toList == name with
  | some named => .ok (.switch named false attached)
  | none =>
      match Switch.all.filter fun switch => name.isPrefixOf switch.word.toList with
      | [] => .ok (unnamed argument)
      | [named] => .ok (.switch named false attached)
      | candidates => .error (.ambiguous argument candidates)

/-- The item that an argument beginning with one hyphen is; `letter` and
`rest` follow it. -/
def ofShort (argument : String) (letter : Char) (rest : List Char) : Item :=
  match ofLetter? letter, rest with
  | none, _ => unnamed argument
  | some named, [] => .switch named true none
  | some named, '=' :: attached => .switch named true (some ⟨true, attached⟩)
  | some named, attached => .switch named true (some ⟨false, attached⟩)

def ofArgument (argument : String) : Except Halt Item :=
  match argument.toList with
  | '-' :: '-' :: body => ofLong argument body
  | '-' :: letter :: rest => .ok (ofShort argument letter rest)
  | _ => .ok (.text argument)

/-- The items that the arguments are.  After the separator every argument is
text, and further separators are no exception. -/
def ofArguments : List String -> Except Halt (List Item)
  | [] => .ok []
  | argument :: rest =>
      if argument = "--" then .ok (.separator :: rest.map .text)
      else do
        let item ← ofArgument argument
        let items ← ofArguments rest
        pure (item :: items)

end Item

/-! ## Giving switches their parameters
-/

/-- How an argument with short switches ends. -/
inductive ClusterEnd where
  /-- With a switch that has its parameter there. -/
  | given (switch : Switch) (parameter : String)
  /-- With a switch whose parameters, if it takes any, follow. -/
  | awaiting (switch : Switch)
  /-- With text that names no switch. -/
  | unrecognized (argument : String)
  deriving DecidableEq, Repr

/-- What a switch takes of a text attached to it: nothing, all of it as its
parameter, or more than there is. -/
def attach (switch : Switch) (text : List Char) : Except Halt (Option ClusterEnd) :=
  match switch.parameters with
  | [] => .ok none
  | [_] => .ok (some (.given switch (String.ofList text)))
  | _ => .error (.wantedParameters switch)

/-- The switches in an argument, given the first of them and the text attached
to it.  A switch without parameters leaves the text to the switches whose
letters stand in it. -/
def cluster (isShort equals : Bool) (switch : Switch) :
    List Char -> Except Halt (List Switch × ClusterEnd)
  | [] => do
      match ← attach switch [] with
      | some ending => pure ([], ending)
      | none => throw (.ignoredParameter switch "")
  | letter :: rest => do
      match ← attach switch (letter :: rest) with
      | some ending => pure ([], ending)
      | none =>
          if !isShort || equals || letter = '-' then
            throw (.ignoredParameter switch (String.ofList (letter :: rest)))
          else
            match Item.ofLetter? letter, rest with
            | none, _ => pure ([switch], .unrecognized (String.ofList ('-' :: letter :: rest)))
            | some next, [] => pure ([switch], .awaiting next)
            | some next, '=' :: attached =>
                let (more, ending) ← cluster true true next attached
                pure (switch :: more, ending)
            | some next, second :: others =>
                let (more, ending) ← cluster true false next (second :: others)
                pure (switch :: more, ending)

/-- What has been made of the arguments so far.  Texts are kept last first,
and put in order when everything has been taken. -/
structure Gathering where
  values : List String
  expressions : List String
  templates : Option (String × String)
  checkReversible : Bool
  reverse : Bool
  verbose : Bool
  file : Option String
  unrecognized : List String
  deriving DecidableEq, Repr

namespace Gathering

def empty : Gathering := ⟨[], [], none, false, false, false, none, []⟩

def takeFlag (gathering : Gathering) : Switch -> Except Halt Gathering
  | .help => .error .help
  | .version => .error .version
  | .checkReversible => .ok { gathering with checkReversible := true }
  | .reverse => .ok { gathering with reverse := true }
  | .verbose => .ok { gathering with verbose := true }
  | _ => .ok gathering

/-- Takes a switch with its only parameter. -/
def takeParameter (gathering : Gathering) (parameter : String) : Switch -> Gathering
  | .bind => { gathering with values := parameter :: gathering.values }
  | .expression => { gathering with expressions := parameter :: gathering.expressions }
  | _ => gathering

def takeFlags (gathering : Gathering) (switches : List Switch) : Except Halt Gathering :=
  switches.foldlM takeFlag gathering

def addUnrecognized (gathering : Gathering) (argument : String) : Gathering :=
  { gathering with unrecognized := argument :: gathering.unrecognized }

def takeText (gathering : Gathering) (argument : String) : Gathering :=
  match gathering.file with
  | none => { gathering with file := some argument }
  | some _ => gathering.addUnrecognized argument

/-- The switches of an argument before its last one, and how the argument
ends. -/
def switches (switch : Switch) (isShort : Bool) :
    Option Attachment -> Except Halt (List Switch × ClusterEnd)
  | none => .ok ([], .awaiting switch)
  | some attached => cluster isShort attached.equals switch attached.text

/-- Takes the items in order.  A separator right before or after the file goes
unnoticed. -/
def takeItems (gathering : Gathering) : List Item -> Except Halt Gathering
  | [] => .ok gathering
  | .unknownSwitch argument :: rest => (gathering.addUnrecognized argument).takeItems rest
  | .separator :: rest =>
      if gathering.file.isNone then gathering.takeItems rest
      else (gathering.addUnrecognized "--").takeItems rest
  | .text argument :: .separator :: rest =>
      if gathering.file.isNone then (gathering.takeText argument).takeItems rest
      else ((gathering.takeText argument).addUnrecognized "--").takeItems rest
  | .text argument :: rest => (gathering.takeText argument).takeItems rest
  | .switch switch isShort attached :: rest => do
      let (flags, ending) ← switches switch isShort attached
      match ending with
      | .unrecognized argument =>
          ((← gathering.takeFlags flags).addUnrecognized argument).takeItems rest
      | .given last parameter =>
          ((← gathering.takeFlags flags).takeParameter parameter last).takeItems rest
      | .awaiting last =>
          match last.parameters, rest with
          | [], later => (← gathering.takeFlags (flags ++ [last])).takeItems later
          | [_], .text parameter :: later =>
              ((← gathering.takeFlags flags).takeParameter parameter last).takeItems later
          | [_, _], .text left :: .text right :: later =>
              let flagged ← gathering.takeFlags flags
              { flagged with templates := some (left, right) }.takeItems later
          | _, _ => throw (.wantedParameters last)

/-- The arguments, if they are complete and none is left over.  A missing file
is complained of before arguments that were not understood. -/
def finish (gathering : Gathering) : Except Halt Arguments :=
  match gathering.file, gathering.unrecognized.reverse with
  | none, _ => .error .missingFile
  | some file, [] => .ok {
      values := gathering.values.reverse
      expressions := gathering.expressions.reverse
      templates := gathering.templates
      checkReversible := gathering.checkReversible
      reverse := gathering.reverse
      verbose := gathering.verbose
      file }
  | some _, unrecognized => .error (.unrecognized unrecognized)

end Gathering

/-- Reads the arguments: first each by itself, then all in their order. -/
def parseArguments (arguments : List String) : Except Halt Arguments := do
  let items ← Item.ofArguments arguments
  let gathering ← Gathering.empty.takeItems items
  gathering.finish

end CommandLine
end Stencil

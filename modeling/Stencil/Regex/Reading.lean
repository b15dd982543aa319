import Stencil.Regex.Reading.Assembly
import Stencil.Regex.Reading.Bounds
import Stencil.Regex.Reading.Opening
import Stencil.Regex.Reading.Set

namespace Stencil
namespace Regex

/-!
Reading a regular expression, one token at a time.  Between two tokens the
reading settles: what may or may not go on with the next token is told which
it is, and what cannot stand before that token is refused.  Only then the
token is taken.  Thus a fault that the next token merely reveals comes before
any fault of that token itself, and reading a text is reading its parts one
after the other.
-/

inductive EscapePlace where
  | outside
  | inSet (reading : SetReading) (place : SetReading.Place)
  deriving DecidableEq, Repr

/-- What the reading is in the middle of.  It holds whatever the next token
may still change; starts are the positions of the tokens that began it. -/
inductive Mode where
  | item
  | lineComment
  | comment (start : Nat)
  | escape (place : EscapePlace) (start : Nat) (token : Token) (escape : Escape.Unfinished)
  | set (reading : SetReading) (place : SetReading.Place)
  | bounds (start : Nat) (reading : BoundsReading)
  | quantified (counts : Counts)
  | opening (start : Nat) (opening : Opening)
  deriving DecidableEq, Repr

structure Reading where
  /-- How many characters have been taken. -/
  position : Nat
  mode : Mode
  assembly : Assembly
  deriving DecidableEq, Repr

namespace Reading

def initial : Reading := ⟨0, .item, .initial⟩

def withItem (reading : Reading) (assembly : Assembly) : Reading :=
  { reading with mode := .item, assembly }

def withMode (reading : Reading) (mode : Mode) : Reading :=
  { reading with mode }

/-- The item in an expression that an escape's meaning is.  The escape begins
at `start`. -/
def takeMeaning (reading : Reading) (meaning : Escape.Meaning) (start : Nat) :
    Except Fault Reading :=
  match meaning with
  | .code code => .ok (reading.withItem (reading.assembly.push (.literal false code)))
  | .category category =>
      .ok (reading.withItem (reading.assembly.push (.set false [.category category])))
  | .anchor anchor => .ok (reading.withItem (reading.assembly.push (.anchor anchor)))
  | .reference group =>
      if reading.assembly.groupCount < group then
        .error (.invalid (.unknownGroup group) (some (start + 1)))
      else
        (reading.assembly.refer group start reading.position).map reading.withItem

/-- Takes a set's item, begun by `token` and read up to here. -/
def takeSetItem (reading : Reading) (set : SetReading) (place : SetReading.Place)
    (item : Member) (token : Token) : Except Fault Reading := do
  let (set, place) ← set.takeItem place item token reading.position
  pure (reading.withMode (.set set place))

def takeEscape (reading : Reading) (place : EscapePlace) (start : Nat) (token : Token)
    (meaning : Escape.Meaning) : Except Fault Reading :=
  match place with
  | .outside => reading.takeMeaning meaning start
  | .inSet set setPlace =>
      match SetReading.member? meaning with
      | some item => reading.takeSetItem set setPlace item token
      | none => .error (.invalid (.badEscape token.text) (some start))

def takeQuantifier (reading : Reading) (counts : Counts) (mode : RepeatMode) : Reading :=
  reading.withItem (reading.assembly.repeatLast mode counts.low counts.high)

/-- The group that a condition's name stands for.  A name that is a number may
refer to a group that opens later, so this is noted for the end. -/
def conditionGroup (assembly : Assembly) (name : Name) : Except Fault (Nat × Assembly) :=
  let fault (problem : Problem) : Except Fault (Nat × Assembly) :=
    .error (.invalid problem (some name.position))
  if Text.isIdentifier name.characters then
    match assembly.names.lookup name.text with
    | some group => .ok (group, assembly)
    | none => fault (.unknownGroupName name.text)
  else
    match Text.Numeral.read? name.characters with
    | none => fault (.badGroupName name.text)
    | some numeral =>
        let group := numeral.magnitude
        if maxDigits < numeral.digits.length || (numeral.negative && group != 0) then
          fault (.badGroupName name.text)
        else if group = 0 then fault .badGroupNumber
        else if maxGroups ≤ group then fault (.unknownGroup group)
        else .ok (group, assembly.noteCondition group name.position)

/-- Takes what the parenthesis at `start` has turned out to begin. -/
def takeOpened (reading : Reading) (start : Nat) (opened : Opened) : Except Fault Reading :=
  let assembly := reading.assembly
  let verbose := assembly.frame.verbose
  match opened with
  | .capture name =>
      match assembly.openCapture (name.map Name.text) start with
      | .ok assembly => .ok (reading.withItem assembly)
      | .error problem => .error (.invalid problem (name.map Name.position))
  | .plain => .ok (reading.withItem (assembly.openGroup .plain start verbose))
  | .flagged change =>
      let verbose := (verbose || change.added.verbose) && !change.removed.verbose
      .ok (reading.withItem (assembly.openGroup (.flagged change) start verbose))
  | .atomic => .ok (reading.withItem (assembly.openGroup .atomic start verbose))
  | .look behind negated => .ok (reading.withItem (assembly.openLook behind negated start))
  | .conditional name => do
      let (group, assembly) ← conditionGroup assembly name
      match assembly.lookBehindProblem? group with
      | some problem => throw (.invalid problem (some reading.position))
      | none => pure (reading.withItem (assembly.openGroup (.conditional group) start verbose))
  | .comment => .ok (reading.withMode (.comment start))
  | .flags added =>
      if assembly.isAtStart then .ok (reading.withItem (assembly.setFlags added))
      else .error (.invalid .misplacedGlobalFlags (some start))
  | .reference name =>
      match assembly.names.lookup name.text with
      | none => .error (.invalid (.unknownGroupName name.text) (some name.position))
      | some group => (assembly.refer group name.position reading.position).map reading.withItem

/-- Ends what does not go on with the next token.  An escape, the bounds of a
repetition and an opening parenthesis are only known for what they are
here. -/
def complete (reading : Reading) (next : Option Token) : Except Fault Reading :=
  match reading.mode with
  | .escape place start token escape =>
      if next.any escape.goesOn then .ok reading
      else do
        let meaning ← escape.finish start reading.position
        reading.takeEscape place start token meaning
  | .bounds _ bounds =>
      if next.any bounds.goesOn then .ok reading
      else .ok (reading.withItem (reading.assembly.pushCharacters bounds.characters))
  | .quantified counts =>
      if next.any fun token => token.is '?' || token.is '+' then .ok reading
      else .ok (reading.takeQuantifier counts .greedy)
  | .opening start .parenthesis =>
      if next.any (Opening.goesOn .parenthesis) then .ok reading
      else reading.takeOpened start (.capture none)
  | _ => .ok reading

/-- What forbids the next token. -/
def refusal? (reading : Reading) (next : Option Token) : Option Fault :=
  match reading.mode, next with
  | .item, some token =>
      if token.is '|' && reading.assembly.hasAllBranches then
        some (.invalid .tooManyBranches (some reading.position))
      else if token.is ')' && reading.assembly.outer.isEmpty then
        some
          (if reading.assembly.flags.ascii && reading.assembly.flags.unicode then
            .refused .bothClasses
          else
            .invalid .unbalancedParenthesis (some reading.position))
      else
        none
  | _, _ => none

/-- Settles the reading before the next token, or before the end: what is
unfinished is completed first, and only then the token is refused. -/
def settle (reading : Reading) (next : Option Token) : Except Fault Reading := do
  let completed ← reading.complete next
  match completed.refusal? next with
  | some fault => throw fault
  | none => pure completed

def beginQuantifier (reading : Reading) (counts : Counts) (start : Nat) : Except Fault Reading :=
  match reading.assembly.repeatProblem? with
  | some problem => .error (.invalid problem (some start))
  | none => .ok (reading.withMode (.quantified counts))

def beginEscape (reading : Reading) (place : EscapePlace) (start : Nat) (token : Token) :
    Except Fault Reading :=
  match Escape.begin (place != .outside) token.character with
  | .whole meaning => reading.takeEscape place start token meaning
  | .unfinished escape => .ok (reading.withMode (.escape place start token escape))
  | .unknown => .error (.invalid (.badEscape token.text) (some start))

/-- Takes a token that begins an item or stands between items.  The token
begins at `start`, and the reading is past it. -/
def takeInExpression (reading : Reading) (start : Nat) (token : Token) : Except Fault Reading :=
  let assembly := reading.assembly
  if token.is '|' then .ok (reading.withItem assembly.nextBranch)
  else if token.is ')' then .ok (reading.withItem assembly.close)
  else if assembly.frame.verbose && token.passes (fun c => Text.isAsciiBlank c.toNat) then
    .ok reading
  else if assembly.frame.verbose && token.is '#' then .ok (reading.withMode .lineComment)
  else if token.escaped then reading.beginEscape .outside start token
  else
    match token.character with
    | '[' => .ok (reading.withMode (.set ⟨start, false, []⟩ .opened))
    | '(' => .ok (reading.withMode (.opening start .parenthesis))
    | '*' => reading.beginQuantifier ⟨0, none⟩ start
    | '+' => reading.beginQuantifier ⟨1, none⟩ start
    | '?' => reading.beginQuantifier ⟨0, some 1⟩ start
    | '{' => .ok (reading.withMode (.bounds start .initial))
    | '.' => .ok (reading.withItem (assembly.push .any))
    | '^' => .ok (reading.withItem (assembly.push (.anchor .lineStart)))
    | '$' => .ok (reading.withItem (assembly.push (.anchor .lineEnd)))
    | character => .ok (reading.withItem (assembly.push (.literal false character.toNat)))

/-- Takes a token that begins an item of a set. -/
def beginSetItem (reading : Reading) (set : SetReading) (place : SetReading.Place) (start : Nat)
    (token : Token) : Except Fault Reading :=
  if token.escaped then reading.beginEscape (.inSet set place) start token
  else reading.takeSetItem set place (.code token.character.toNat) token

def takeInSet (reading : Reading) (set : SetReading) (place : SetReading.Place) (start : Nat)
    (token : Token) : Except Fault Reading :=
  let close (set : SetReading) : Except Fault Reading :=
    .ok (reading.withItem (reading.assembly.push set.expr))
  match place with
  | .opened =>
      if token.is '^' then .ok (reading.withMode (.set { set with negated := true } .beforeItem))
      else reading.beginSetItem set .beforeItem start token
  | .beforeItem =>
      if token.is ']' && !set.members.isEmpty then close set
      else reading.beginSetItem set .beforeItem start token
  | .afterItem item first =>
      if token.is '-' then .ok (reading.withMode (.set set (.afterDash item first)))
      else if token.is ']' then close (set.add item)
      else reading.beginSetItem (set.add item) .beforeItem start token
  | .afterDash item _ =>
      if token.is ']' then close ((set.add item).add (.code '-'.toNat))
      else reading.beginSetItem set place start token

/-- Takes a token that the reading has settled for. -/
def takeSettled (reading : Reading) (token : Token) : Except Fault Reading :=
  let start := reading.position
  let past := { reading with position := start + token.length }
  match reading.mode with
  | .item => past.takeInExpression start token
  | .lineComment => .ok (if token.is '\n' then past.withMode .item else past)
  | .comment _ => .ok (if token.is ')' then past.withMode .item else past)
  | .escape place start first escape =>
      .ok (past.withMode (.escape place start first (escape.extend token)))
  | .set set place => past.takeInSet set place start token
  | .bounds start bounds =>
      if token.is '}' then do
        let counts ← bounds.counts start
        past.beginQuantifier counts start
      else
        .ok (past.withMode (.bounds start (bounds.extend token.character)))
  | .quantified counts =>
      .ok (past.takeQuantifier counts (if token.is '?' then .lazy else .possessive))
  | .opening start opening => do
      match ← opening.take token past.position with
      | .inl opening => pure (past.withMode (.opening start opening))
      | .inr opened => past.takeOpened start opened

def take (reading : Reading) (token : Token) : Except Fault Reading := do
  let settled ← reading.settle (some token)
  settled.takeSettled token

def takeAll (reading : Reading) (tokens : List Token) : Except Fault Reading :=
  tokens.foldlM take reading

/-- The fault that the expression ends in the middle of something. -/
def endFault? (reading : Reading) : Option Fault :=
  match reading.mode with
  | .comment start => some (.invalid .unterminatedComment (some start))
  | .set set _ => some (.invalid .unterminatedSet (some set.start))
  | .opening _ opening => some (opening.endFault reading.position)
  | _ => reading.assembly.endFault?

/-- What has been assembled, if the expression may end here. -/
def finish (reading : Reading) : Except Fault Assembly := do
  let settled ← reading.settle none
  match settled.endFault? with
  | some fault => throw fault
  | none => pure settled.assembly

/-- The fault of an expression whose tokens are followed by a single
backslash, at `position`.  The backslash is noticed when the token before it
is taken. -/
def danglingFault (tokens : List Token) (position : Nat) : Fault :=
  let dangling : Fault := .invalid .danglingBackslash (some position)
  match tokens.getLast? with
  | none => dangling
  | some last =>
      match initial.takeAll tokens.dropLast >>= fun reading => reading.settle (some last) with
      | .error fault => fault
      | .ok _ => dangling

/-- Reads a whole expression, from its tokens to the assembly of its items. -/
def read (text : List Char) : Except Fault Assembly :=
  match Token.split text with
  | (tokens, false) => initial.takeAll tokens >>= finish
  | (tokens, true) => .error (danglingFault tokens (text.length - 1))

/-- Taking tokens is taking some of them and then the others. -/
theorem takeAll_append (reading : Reading) (front back : List Token) :
    reading.takeAll (front ++ back) =
      reading.takeAll front >>= fun middle => middle.takeAll back := by
  simp [takeAll]

end Reading

end Regex
end Stencil

import Stencil.Regex.Flags
import Stencil.Regex.Error
import Stencil.Regex.Token
import Stencil.Text.Alphabet
import Stencil.Text.Identifier

namespace Stencil
namespace Regex

/-!
What may stand after an opening parenthesis.  A question mark there begins an
extension: a name, a look-ahead, flags, a comment and so on.  The reading goes
on until it is clear what the parenthesis opens; a comment, flags for the
whole expression and a named reference open nothing.
-/

/-- A name with the position of its first character. -/
structure Name where
  characters : List Char
  position : Nat
  deriving DecidableEq, Repr

namespace Name

def text (name : Name) : String :=
  String.ofList name.characters

end Name

/-- What an opening parenthesis turns out to begin. -/
inductive Opened where
  | capture (name : Option Name)
  | plain
  | flagged (change : FlagChange)
  | atomic
  | look (behind negated : Bool)
  | conditional (name : Name)
  | comment
  | flags (added : Flags)
  | reference (name : Name)
  deriving DecidableEq, Repr

/-- What stands after an opening parenthesis so far.  It takes up to a whole
name or a list of flags to tell what the parenthesis begins. -/
inductive Opening where
  | parenthesis
  | question
  | extension
  | groupName (characters : List Char)
  | referenceName (characters : List Char)
  | conditionName (characters : List Char)
  /-- After `(?<`. -/
  | angle
  | flagsOn (added : Flags)
  | flagsOff (added removed : Flags) (begun : Bool)
  deriving DecidableEq, Repr

namespace Opening

def isFlagLetter (character : Char) : Bool :=
  character == 'L' || (Flags.ofLetter? character).isSome

def turnOn (added : Flags) (letter : Char) (stop : Nat) : Except Fault Flags :=
  match Flags.ofLetter? letter with
  | none => .error (.invalid .localeFlag (some stop))
  | some flag =>
      let all := added.union flag
      if flag.choosesClasses && all.ascii && all.unicode then
        .error (.invalid .conflictingFlags (some stop))
      else
        .ok all

def turnOff (removed : Flags) (letter : Char) (stop : Nat) : Except Fault Flags :=
  match Flags.ofLetter? letter with
  | none => .error (.invalid .unremovableFlag (some stop))
  | some flag =>
      if flag.choosesClasses then .error (.invalid .unremovableFlag (some stop))
      else .ok (removed.union flag)

/-- The fault that a token is no flag letter where one of them, or what
`problem` misses, must stand. -/
def noFlag (token : Token) (problem : Problem) (stop : Nat) : Fault :=
  let isLetter := token.passes fun character => Text.isLetter character.toNat
  .invalid (if isLetter then .unknownFlag else problem) (some (stop - token.length))

def endName (characters : List Char) (stop : Nat) : Except Fault Name :=
  if characters.isEmpty then .error (.invalid (.missingName "group name") (some (stop - 1)))
  else .ok ⟨characters, stop - 1 - characters.length⟩

/-- Ends a name that must be an identifier. -/
def endIdentifier (characters : List Char) (stop : Nat) : Except Fault Name := do
  let name ← endName characters stop
  if Text.isIdentifier characters then pure name
  else throw (.invalid (.badGroupName name.text) (some name.position))

def unknownExtension (before : String) (token : Token) (stop : Nat) : Fault :=
  .invalid (.unknownExtension (before ++ token.text))
    (some (stop - (before.length + token.length)))

def takeExtension (token : Token) (stop : Nat) : Except Fault (Opening ⊕ Opened) :=
  if token.is 'P' then .ok (.inl .extension)
  else if token.is ':' then .ok (.inr .plain)
  else if token.is '#' then .ok (.inr .comment)
  else if token.is '=' then .ok (.inr (.look false false))
  else if token.is '!' then .ok (.inr (.look false true))
  else if token.is '<' then .ok (.inl .angle)
  else if token.is '(' then .ok (.inl (.conditionName []))
  else if token.is '>' then .ok (.inr .atomic)
  else if token.is '-' then .ok (.inl (.flagsOff {} {} false))
  else if token.passes isFlagLetter then
    (turnOn {} token.character stop).map fun added => .inl (.flagsOn added)
  else .error (unknownExtension "?" token stop)

def takeFlagOn (added : Flags) (token : Token) (stop : Nat) : Except Fault (Opening ⊕ Opened) :=
  if token.is ')' then .ok (.inr (.flags added))
  else if token.is ':' || token.is '-' then
    if added.unrepeated then .error (.invalid .unscopableFlagOn (some (stop - 1)))
    else if token.is ':' then .ok (.inr (.flagged ⟨added, {}⟩))
    else .ok (.inl (.flagsOff added {} false))
  else if token.passes isFlagLetter then
    (turnOn added token.character stop).map fun added => .inl (.flagsOn added)
  else .error (noFlag token .missingFlagsEnd stop)

def takeFlagOff (added removed : Flags) (begun : Bool) (token : Token) (stop : Nat) :
    Except Fault (Opening ⊕ Opened) :=
  if begun && token.is ':' then
    if removed.unrepeated then .error (.invalid .unscopableFlagOff (some (stop - 1)))
    else if added.meets removed then .error (.invalid .flagOnAndOff (some (stop - 1)))
    else .ok (.inr (.flagged ⟨added, removed⟩))
  else if token.passes isFlagLetter then
    (turnOff removed token.character stop).map fun removed => .inl (.flagsOff added removed true)
  else .error (noFlag token (if begun then .missingColon else .missingFlag) stop)

/-- Whether the opening goes on with the token, rather than being complete
before it.  Only the bare parenthesis can be complete. -/
def goesOn (opening : Opening) (token : Token) : Bool :=
  match opening with
  | .parenthesis => token.is '?'
  | _ => true

/-- What the token, which ends before `stop`, makes of the opening. -/
def take (opening : Opening) (token : Token) (stop : Nat) : Except Fault (Opening ⊕ Opened) :=
  match opening with
  | .parenthesis => .ok (.inl .question)
  | .question => takeExtension token stop
  | .extension =>
      if token.is '<' then .ok (.inl (.groupName []))
      else if token.is '=' then .ok (.inl (.referenceName []))
      else .error (unknownExtension "?P" token stop)
  | .groupName characters =>
      if token.is '>' then
        (endIdentifier characters stop).map fun name => .inr (.capture (some name))
      else .ok (.inl (.groupName (characters ++ token.characters)))
  | .referenceName characters =>
      if token.is ')' then (endIdentifier characters stop).map fun name => .inr (.reference name)
      else .ok (.inl (.referenceName (characters ++ token.characters)))
  | .conditionName characters =>
      if token.is ')' then (endName characters stop).map fun name => .inr (.conditional name)
      else .ok (.inl (.conditionName (characters ++ token.characters)))
  | .angle =>
      if token.is '=' then .ok (.inr (.look true false))
      else if token.is '!' then .ok (.inr (.look true true))
      else .error (unknownExtension "?<" token stop)
  | .flagsOn added => takeFlagOn added token stop
  | .flagsOff added removed begun => takeFlagOff added removed begun token stop

def unfinishedName (characters : List Char) (terminator : Char) (stop : Nat) : Fault :=
  if characters.isEmpty then .invalid (.missingName "group name") (some stop)
  else .invalid (.unterminatedName terminator) (some (stop - characters.length))

/-- The fault that the expression ends, at `stop`, in the middle of the
opening. -/
def endFault (opening : Opening) (stop : Nat) : Fault :=
  match opening with
  | .groupName characters => unfinishedName characters '>' stop
  | .referenceName characters => unfinishedName characters ')' stop
  | .conditionName characters => unfinishedName characters ')' stop
  | .flagsOn _ => .invalid .missingFlagsEnd (some stop)
  | .flagsOff _ _ begun => .invalid (if begun then .missingColon else .missingFlag) (some stop)
  | _ => .invalid .unexpectedEnd (some stop)

end Opening

end Regex
end Stencil

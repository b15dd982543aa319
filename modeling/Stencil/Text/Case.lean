import Stencil.Text.Case.Table

namespace Stencil
namespace Text

/-!
Upper and lower case by Unicode 14.  A form may be longer than the letter it
belongs to, and the lower-case form of the capital sigma depends on its
neighbours; everything else is letter by letter.  The `fold` functions give
the first character of a form: they are what comparing without regard to case
goes by.
-/

namespace Case

/-- The one-character form that `runs` give to a code point, itself if they
give none. -/
def throughRuns (runs : List Run) (code : Nat) : Nat :=
  match runs.find? fun run => run.contains code with
  | some run => run.apply code
  | none => code

def form (expansions : List (Nat × List Nat)) (runs : List Run) (code : Nat) : List Nat :=
  match expansions.lookup code with
  | some codes => codes
  | none => [throughRuns runs code]

def lowerForm (code : Nat) : List Nat :=
  form lowerExpansions lowerRuns code

def upperForm (code : Nat) : List Nat :=
  form upperExpansions upperRuns code

/-- The first character of the lower-case form, which is all that comparing
without regard to case looks at. -/
def foldLower (code : Nat) : Nat :=
  (lowerForm code).headD code

def foldUpper (code : Nat) : Nat :=
  (upperForm code).headD code

/-- The lower-case form of the ASCII letters alone. -/
def foldAscii (code : Nat) : Nat :=
  if 0x41 ≤ code && code ≤ 0x5A then code + 32 else code

/-- Whether the code point has another case, as far as first characters
tell. -/
def changesCase (code : Nat) : Bool :=
  foldLower code != code || foldUpper code != code

/-- Whether the run has a member between `first` and `last`, both included. -/
def Run.meets (run : Run) (first last : Nat) : Bool :=
  let steps := (first - run.first + run.stride - 1) / run.stride
  let least := run.first + steps * run.stride
  least ≤ last && least ≤ run.last

/-- Whether some code point between `first` and `last`, both included, has
another case. -/
def someChangesCase (first last : Nat) : Bool :=
  (lowerRuns ++ upperRuns).any (fun run => run.meets first last) ||
    (lowerExpansions ++ upperExpansions).any fun (code, _) =>
      first ≤ code && code ≤ last && changesCase code

def isAsciiLetter (code : Nat) : Bool :=
  (0x41 ≤ code && code ≤ 0x5A) || (0x61 ≤ code && code ≤ 0x7A)

/-- The other members of the class of letters that count as one with `code`
when case is ignored. -/
def siblings (code : Nat) : List Nat :=
  match siblingClasses.find? fun group => group.contains code with
  | some group => group.filter fun member => member != code
  | none => []

/-- The code points whose lower-case form begins with `code`. -/
def foldSources (code : Nat) : List Nat :=
  let unchanged := if foldLower code == code then [code] else []
  let shifted := lowerRuns.filterMap fun run =>
    let source := ((code : Int) - run.shift).toNat
    if run.contains source && foldLower source == code then some source else none
  let expanded := lowerExpansions.filterMap fun (source, codes) =>
    if codes.head? == some code then some source else none
  unchanged ++ shifted ++ expanded

end Case

/-- Whether the code point is a capital letter.  A title-case digraph is none,
and a symbol that looks like a capital is one. -/
def isCapital (code : Nat) : Bool :=
  (Case.foldLower code != code) != Case.capitalExceptions.contains code

private def capitalSigma : Char := '\u03A3'
private def smallSigma : Char := '\u03C3'
private def finalSigma : Char := '\u03C2'

/-- Whether the nearest of `neighbours` that is not passed over has a case. -/
def facesCased (neighbours : List Char) : Bool :=
  match neighbours.dropWhile fun character => Case.caseIgnorable.contains character.toNat with
  | [] => false
  | character :: _ => Case.cased.contains character.toNat

/-- A sigma is final when a cased letter stands before it and none after
it. -/
def lowerSigma (before after : List Char) : Char :=
  if facesCased before && !facesCased after then finalSigma else smallSigma

/-- Lower-cases the text after `before`, which is given last character
first. -/
def lowerAfter : (before text : List Char) -> List Char
  | _, [] => []
  | before, character :: rest =>
      let form :=
        if character = capitalSigma then
          [lowerSigma before rest]
        else
          (Case.lowerForm character.toNat).map Char.ofNat
      form ++ lowerAfter (character :: before) rest

def lower (text : String) : String :=
  String.ofList (lowerAfter [] text.toList)

/-- The text with its first character in upper case and the others as they
are. -/
def capitalizeFirst (text : String) : String :=
  match text.toList with
  | [] => ""
  | first :: rest => String.ofList ((Case.upperForm first.toNat).map Char.ofNat ++ rest)

def isCapitalized (text : String) : Bool :=
  match text.toList with
  | [] => false
  | first :: _ => isCapital first.toNat

end Text
end Stencil

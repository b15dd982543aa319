import Stencil.Regex.Expr
import Stencil.Regex.Error

namespace Stencil
namespace Regex

/-!
Assembling an expression from its items as they are read.  Open groups lie on
a stack of frames, each with its finished branches and with the pieces of the
branch being read.  Closing a group turns its frame into one piece of the
frame around it.

Groups are numbered in the order of their opening parentheses.  A group may be
referred to once it is closed; inside a look-behind only groups from before it
may.  A group that neither captures nor changes anything dissolves into the
branch around it when that branch ends.
-/

/-- What kind of group a frame is, as far as its closing needs it. -/
inductive GroupKind where
  /-- The whole expression. -/
  | whole
  | capture (group : Nat)
  | plain
  | flagged (change : FlagChange)
  | atomic
  /-- A look-ahead or look-behind, with the look-behind limit outside of it. -/
  | look (behind negated : Bool) (outerLimit : Option Nat)
  | conditional (group : Nat)
  deriving DecidableEq, Repr

/-- An item of a branch, or the items of a plain group that has not dissolved
yet. -/
inductive Piece where
  | single (item : Expr)
  | bundle (items : List Expr)
  deriving DecidableEq, Repr

namespace Piece

def items : Piece -> List Expr
  | .single item => [item]
  | .bundle items => items

end Piece

/-- A group that is being read; branches and pieces are kept last first. -/
structure Frame where
  kind : GroupKind
  /-- The position of the opening parenthesis. -/
  start : Nat
  /-- Whether white space and comments are skipped. -/
  verbose : Bool
  branches : List (List Expr)
  pieces : List Piece
  deriving DecidableEq, Repr

namespace Frame

def begin (kind : GroupKind) (start : Nat) (verbose : Bool) : Frame :=
  ⟨kind, start, verbose, [], []⟩

def branch (frame : Frame) : List Expr :=
  frame.pieces.reverse.flatMap Piece.items

def allBranches (frame : Frame) : List (List Expr) :=
  (frame.branch :: frame.branches).reverse

end Frame

namespace Expr

/-- The leaves that `first` and all the others begin with. -/
def sharedLeaves : (first : List Expr) -> (others : List (List Expr)) -> List Expr
  | [], _ => []
  | item :: rest, others =>
      if item.isLeaf && others.all (fun branch => branch.head? == some item) then
        item :: sharedLeaves rest (others.map List.tail)
      else
        []

/-- The members of the set that a branch of one plain character or one set
amounts to. -/
def branchMembers? : List Expr -> Option (List Member)
  | [.literal false code] => some [.code code]
  | [.set false members] => some members
  | _ => none

/-- The items that several branches amount to.  What all of them begin with is
taken out, and if each has just one character left, the alternatives become a
set. -/
def alternatives : List (List Expr) -> List Expr
  | [] => []
  | [branch] => branch
  | first :: others =>
      let shared := sharedLeaves first others
      let rests := (first :: others).map (List.drop shared.length)
      match rests.mapM branchMembers? with
      | some members => shared ++ [.set false members.flatten.eraseDups]
      | none => shared ++ [choice (rests.map sequence)]

end Expr

/-- What has been read of an expression. -/
structure Assembly where
  /-- The flags for the whole expression. -/
  flags : Flags
  /-- How many capturing groups have been opened. -/
  groupCount : Nat
  /-- The numbers of the named groups, last first. -/
  names : List (String × Nat)
  /-- The widths of the closed groups. -/
  widths : List (Nat × Width)
  /-- Inside a look-behind, the first group number that may not be referred to. -/
  lookBehindLimit : Option Nat
  /-- The groups, not checked yet, that conditions name by number, with the places of the
  numbers; last first. -/
  conditions : List (Nat × Nat)
  frame : Frame
  /-- The frames around, innermost first. -/
  outer : List Frame
  deriving DecidableEq, Repr

/-- No group may have this number. -/
def maxGroups : Nat := 1073741823

namespace Assembly

def initial : Assembly where
  flags := {}
  groupCount := 0
  names := []
  widths := []
  lookBehindLimit := none
  conditions := []
  frame := .begin .whole 0 false
  outer := []

def pushPiece (assembly : Assembly) (piece : Piece) : Assembly :=
  { assembly with frame := { assembly.frame with pieces := piece :: assembly.frame.pieces } }

def push (assembly : Assembly) (item : Expr) : Assembly :=
  assembly.pushPiece (.single item)

/-- Adds plain characters to the branch being read. -/
def pushCharacters (assembly : Assembly) (characters : List Char) : Assembly :=
  characters.foldl
    (fun assembly character => assembly.push (.literal false character.toNat)) assembly

/-- What forbids repeating the last piece. -/
def repeatProblem? (assembly : Assembly) : Option Problem :=
  match assembly.frame.pieces with
  | [] => some .nothingToRepeat
  | .single (.anchor _) :: _ => some .nothingToRepeat
  | .single (.repeated _ _ _ _) :: _ => some .multipleRepeat
  | _ :: _ => none

def repeatLast (assembly : Assembly) (mode : RepeatMode) (low : Nat) (high : Option Nat) :
    Assembly :=
  match assembly.frame.pieces with
  | [] => assembly
  | piece :: rest =>
      let item := .repeated mode low high (Expr.sequence piece.items)
      { assembly with frame := { assembly.frame with pieces := .single item :: rest } }

def openGroup (assembly : Assembly) (kind : GroupKind) (start : Nat) (verbose : Bool) : Assembly :=
  { assembly with
    frame := .begin kind start verbose
    outer := assembly.frame :: assembly.outer }

def openCapture (assembly : Assembly) (name : Option String) (start : Nat) :
    Except Problem Assembly :=
  let group := assembly.groupCount + 1
  let opened := { assembly with groupCount := group }.openGroup (.capture group) start
    assembly.frame.verbose
  match name with
  | none => .ok opened
  | some name =>
      match assembly.names.lookup name with
      | some earlier => .error (.redefinedGroupName name group earlier)
      | none => .ok { opened with names := (name, group) :: opened.names }

def openLook (assembly : Assembly) (behind negated : Bool) (start : Nat) : Assembly :=
  let opened :=
    assembly.openGroup (.look behind negated assembly.lookBehindLimit) start assembly.frame.verbose
  if behind && assembly.lookBehindLimit.isNone then
    { opened with lookBehindLimit := some (assembly.groupCount + 1) }
  else
    opened

def lookBehindProblem? (assembly : Assembly) (group : Nat) : Option Problem :=
  match assembly.lookBehindLimit with
  | none => none
  | some limit =>
      match assembly.widths.lookup group with
      | none => some .openGroup
      | some _ => if limit ≤ group then some .groupOfSameLookBehind else none

/-- Adds a reference to a group, which is written at `start` and ends before
`stop`. -/
def refer (assembly : Assembly) (group start stop : Nat) : Except Fault Assembly :=
  match assembly.widths.lookup group, assembly.lookBehindProblem? group with
  | none, _ => .error (.invalid .openGroup (some start))
  | some _, some problem => .error (.invalid problem (some stop))
  | some width, none => .ok (assembly.push (.reference group width))

def hasAllBranches (assembly : Assembly) : Bool :=
  match assembly.frame.kind with
  | .conditional _ => !assembly.frame.branches.isEmpty
  | _ => false

/-- Ends a branch and begins the next one.  Flags set for the whole expression
take effect at its next branch. -/
def nextBranch (assembly : Assembly) : Assembly :=
  let frame := assembly.frame
  let verbose := if assembly.outer.isEmpty then assembly.flags.verbose else frame.verbose
  { assembly with
    frame := { frame with verbose, branches := frame.branch :: frame.branches, pieces := [] } }

def items (frame : Frame) : List Expr :=
  Expr.alternatives frame.allBranches

def closedPiece (frame : Frame) : Piece :=
  let body := Expr.sequence (items frame)
  match frame.kind with
  | .whole => .bundle (items frame)
  | .capture group => .single (.capture group body)
  | .plain => .bundle (items frame)
  | .flagged change => .single (.flagged change body)
  | .atomic => .single (.atomic body)
  | .look behind negated _ => .single (.look behind negated body)
  | .conditional group =>
      match frame.allBranches with
      | captured :: otherwise :: _ =>
          .single (.conditional group (Expr.sequence captured) (Expr.sequence otherwise))
      | _ => .single (.conditional group (Expr.sequence frame.branch) .empty)

def close (assembly : Assembly) : Assembly :=
  match assembly.outer with
  | [] => assembly
  | enclosing :: outer =>
      let frame := assembly.frame
      let closed := match frame.kind with
        | .capture group =>
            { assembly with
              widths := (group, (Expr.sequence (items frame)).width) :: assembly.widths }
        | .look _ _ outerLimit => { assembly with lookBehindLimit := outerLimit }
        | _ => assembly
      { closed with frame := enclosing, outer }.pushPiece (closedPiece frame)

/-- Whether nothing has been read yet but what leaves no trace.  Only here may
flags be set for the whole expression. -/
def isAtStart (assembly : Assembly) : Bool :=
  assembly.outer.isEmpty && assembly.frame.branches.isEmpty && assembly.frame.pieces.isEmpty

/-- Sets flags for the whole expression.  Those set before stay set. -/
def setFlags (assembly : Assembly) (added : Flags) : Assembly :=
  let flags := assembly.flags.union added
  { assembly with flags, frame := { assembly.frame with verbose := flags.verbose } }

/-- Notes that a condition names a group by its number, written at
`position`. -/
def noteCondition (assembly : Assembly) (group position : Nat) : Assembly :=
  match assembly.conditions.lookup group with
  | some _ => assembly
  | none => { assembly with conditions := (group, position) :: assembly.conditions }

/-- What is wrong if the expression ends here: a group that is open, a choice
of both kinds of classes, or a condition on a group there never was. -/
def endFault? (assembly : Assembly) : Option Fault :=
  if !assembly.outer.isEmpty then
    some (.invalid .unterminatedGroup (some assembly.frame.start))
  else if assembly.flags.ascii && assembly.flags.unicode then
    some (.refused .bothClasses)
  else
    (assembly.conditions.reverse.find? fun (group, _) => assembly.groupCount < group).map
      fun (group, position) => .invalid (.unknownGroup group) (some position)

end Assembly

end Regex
end Stencil

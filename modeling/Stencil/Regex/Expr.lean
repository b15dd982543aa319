import Stencil.Regex.Flags
import Stencil.Regex.Error

namespace Stencil
namespace Regex

/-!
Regular expressions as trees, and the widths of what they match.  Characters
are code points, because an expression may name code points that no text
contains.  Groups that neither capture nor change the flags leave no trace in
the tree.

The width of an expression is a pair of bounds on the number of characters it
matches.  It is exact enough to tell which look-behinds have a fixed width; a
back-reference carries the width of the group it repeats, so the width of a
tree is a function of the tree alone.
-/

inductive ClassKind where
  | digit
  | space
  | word
  deriving DecidableEq, Repr

structure Category where
  kind : ClassKind
  negated : Bool
  deriving DecidableEq, Repr

inductive Anchor where
  /-- `^` -/
  | lineStart
  /-- `$` -/
  | lineEnd
  /-- `\A` -/
  | textStart
  /-- `\Z` -/
  | textEnd
  /-- `\b` -/
  | wordBoundary
  /-- `\B` -/
  | noWordBoundary
  deriving DecidableEq, Repr

/-- One of the things listed in a character set. -/
inductive Member where
  | code (code : Nat)
  | range (first last : Nat)
  | category (category : Category)
  deriving DecidableEq, Repr

/-- Bounds on a number of characters.  An absent upper bound stands for
none. -/
structure Width where
  low : Nat
  high : Option Nat
  deriving DecidableEq, Repr

namespace Width

def exactly (count : Nat) : Width := ⟨count, some count⟩

def add (first second : Width) : Width where
  low := first.low + second.low
  high := match first.high, second.high with
    | some firstHigh, some secondHigh => some (firstHigh + secondHigh)
    | _, _ => none

def join (first second : Width) : Width where
  low := min first.low second.low
  high := match first.high, second.high with
    | some firstHigh, some secondHigh => some (max firstHigh secondHigh)
    | _, _ => none

/-- The width of `low` to `high` repetitions.  Nothing repeated without bound
is still nothing. -/
def times (width : Width) (low : Nat) (high : Option Nat) : Width where
  low := width.low * low
  high := match width.high, high with
    | some bodyHigh, some count => some (bodyHigh * count)
    | some 0, none => some 0
    | some _, none => none
    | none, some 0 => some 0
    | none, _ => none

def isFixed (width : Width) : Bool :=
  width.high == some width.low

end Width

inductive Expr where
  | empty
  /-- One character: the given one, or any other if negated. -/
  | literal (negated : Bool) (code : Nat)
  /-- Any character, though not always a line feed. -/
  | any
  | set (negated : Bool) (members : List Member)
  | anchor (anchor : Anchor)
  /-- What the group last captured, whose width is given. -/
  | reference (group : Nat) (width : Width)
  | seq (first second : Expr)
  | alt (first second : Expr)
  | repeated (mode : RepeatMode) (low : Nat) (high : Option Nat) (body : Expr)
  | capture (group : Nat) (body : Expr)
  | flagged (change : FlagChange) (body : Expr)
  /-- The first way of matching the body, and no other. -/
  | atomic (body : Expr)
  /-- Looks whether the body matches after, or if `behind` up to, this place; consumes nothing. -/
  | look (behind negated : Bool) (body : Expr)
  /-- The first branch if the group has captured something, the second otherwise. -/
  | conditional (group : Nat) (captured otherwise : Expr)
  deriving DecidableEq, Repr

namespace Expr

/-- The expressions one after the other, nested to the right. -/
def sequence : List Expr -> Expr
  | [] => .empty
  | [item] => item
  | item :: rest => .seq item (sequence rest)

/-- The expressions as alternatives, nested to the right, in the order in
which they are tried. -/
def choice : List Expr -> Expr
  | [] => .empty
  | [branch] => branch
  | branch :: rest => .alt branch (choice rest)

def width : Expr -> Width
  | .empty => .exactly 0
  | .literal _ _ => .exactly 1
  | .any => .exactly 1
  | .set _ _ => .exactly 1
  | .anchor _ => .exactly 0
  | .reference _ width => width
  | .seq first second => first.width.add second.width
  | .alt first second => first.width.join second.width
  | .repeated _ low high body => body.width.times low high
  | .capture _ body => body.width
  | .flagged _ body => body.width
  | .atomic body => body.width
  | .look _ _ _ => .exactly 0
  | .conditional _ captured otherwise => captured.width.join otherwise.width

/-- Whether the expression is a leaf of the tree.  Leaves are what branches
may be seen to have in common before they are told apart. -/
def isLeaf : Expr -> Bool
  | .literal _ _ => true
  | .any => true
  | .set _ _ => true
  | .anchor _ => true
  | .reference _ _ => true
  | _ => false

end Expr

end Regex
end Stencil

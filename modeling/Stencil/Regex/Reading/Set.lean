import Stencil.Regex.Reading.Escape

namespace Stencil
namespace Regex

/-!
Character sets: the items between square brackets.  A `^` right after the
opening bracket negates the set.  A closing bracket ends the set unless it is
the first item, so no set is empty.  A `-` between two items makes them the
ends of a range; before the closing bracket it stands for itself.
-/

/-- A set with its members: one unnegated or negated character if there is no
other member. -/
def Expr.ofMembers (negated : Bool) (members : List Member) : Expr :=
  match members.eraseDups with
  | [.code code] => .literal negated code
  | distinct => .set negated distinct

structure SetReading where
  /-- The position of the opening bracket. -/
  start : Nat
  negated : Bool
  /-- The members read, last first. -/
  members : List Member
  deriving DecidableEq, Repr

namespace SetReading

/-- Where in the set the reading is.  A range may begin after an item, and the
item is kept until it is known whether one does. -/
inductive Place where
  /-- After the opening bracket. -/
  | opened
  | beforeItem
  /-- After an item, with the token that began it. -/
  | afterItem (item : Member) (token : Token)
  /-- After an item and a `-`. -/
  | afterDash (item : Member) (token : Token)
  deriving DecidableEq, Repr

def add (reading : SetReading) (member : Member) : SetReading :=
  { reading with members := member :: reading.members }

def expr (reading : SetReading) : Expr :=
  Expr.ofMembers reading.negated reading.members.reverse

/-- The member that an escape's meaning is. -/
def member? : Escape.Meaning -> Option Member
  | .code code => some (.code code)
  | .category category => some (.category category)
  | .anchor _ => none
  | .reference _ => none

def range (first second : Member) (firstToken secondToken : Token) (position : Nat) :
    Except Fault Member :=
  let bad : Except Fault Member :=
    .error (.invalid (.badRange firstToken.text secondToken.text)
      (some (position - (firstToken.length + 1 + secondToken.length))))
  match first, second with
  | .code low, .code high => if low ≤ high then .ok (.range low high) else bad
  | _, _ => bad

/-- Where the reading stands after an item that `token` began, read up to
`position`. -/
def takeItem (reading : SetReading) (place : Place) (item : Member) (token : Token)
    (position : Nat) : Except Fault (SetReading × Place) :=
  match place with
  | .afterDash first firstToken => do
      let member ← range first item firstToken token position
      pure (reading.add member, .beforeItem)
  | _ => .ok (reading, .afterItem item token)

end SetReading

end Regex
end Stencil

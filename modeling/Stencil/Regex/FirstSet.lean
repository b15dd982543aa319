import Stencil.Regex.Membership

namespace Stencil
namespace Regex

/-!
The set of characters that an expression begins with, if it begins with one.
A search looks at it before it tries the expression at a position, and goes on
at once if the character there does not pass.

The look is a plain one.  Nothing is folded for it, so there is none where a
member of the set has a case that is ignored.  And the classes in the set are
read as the flags of the whole expression say, also if the set stands in a
group that has them read in another way.
-/

structure FirstSet where
  negated : Bool
  members : List Member
  flags : Flags
  deriving DecidableEq, Repr

namespace FirstSet

/-- Whether the set admits the character where it stands. -/
def admits (first : FirstSet) (code : Nat) : Bool :=
  membersAdmit first.flags first.members code != first.negated

/-- Whether a search looks at the set: no member has a case that is ignored.
Single code points are judged by themselves, also beyond the basic plane,
whose members make a set count as cased whatever they are. -/
def isLookedAt (first : FirstSet) : Bool :=
  !first.flags.ignoreCase || first.members.all fun
    | .code only => !hasCase first.flags.unicode only
    | member => !member.isCased first.flags.unicode

/-- Whether the character passes.  The classes are Unicode's or ASCII's as the
flags of the whole expression have it, not as those inside the set do. -/
def passes (unicode : Bool) (first : FirstSet) (code : Nat) : Bool :=
  first.members.any (Member.contains unicode code) != first.negated

end FirstSet

/-- The set that the expression begins with, under the flags that hold around
it.  It may stand in groups, but nothing may stand before it and it may not be
repeated. -/
def Expr.firstSet? : Expr -> Flags -> Option FirstSet
  | .set negated members, flags => some ⟨negated, members, flags⟩
  | .seq first _, flags => first.firstSet? flags
  | .capture _ body, flags => body.firstSet? flags
  | .flagged change body, flags => body.firstSet? (change.apply flags)
  | _, _ => none

end Regex
end Stencil

namespace Stencil
namespace Regex

/-!
The flags of a regular expression.  A flag set is a record with one entry for
each letter that can be written inline.  A group may change the flags for its
own extent; the two flags that choose between Unicode and ASCII character
classes exclude each other, so turning one on turns the other off.
-/

structure Flags where
  /-- Letters match whatever their case. -/
  ignoreCase : Bool := false
  /-- `^` and `$` also match at the line ends inside the text. -/
  multiline : Bool := false
  /-- `.` also matches a line feed. -/
  dotAll : Bool := false
  /-- White space and `#` comments in the expression are skipped. -/
  verbose : Bool := false
  /-- Classes, boundaries and case are those of ASCII. -/
  ascii : Bool := false
  /-- Classes, boundaries and case are those of Unicode. -/
  unicode : Bool := false
  /-- Nothing may be repeated. -/
  unrepeated : Bool := false
  deriving DecidableEq, Repr

namespace Flags

def union (first second : Flags) : Flags where
  ignoreCase := first.ignoreCase || second.ignoreCase
  multiline := first.multiline || second.multiline
  dotAll := first.dotAll || second.dotAll
  verbose := first.verbose || second.verbose
  ascii := first.ascii || second.ascii
  unicode := first.unicode || second.unicode
  unrepeated := first.unrepeated || second.unrepeated

def without (flags removed : Flags) : Flags where
  ignoreCase := flags.ignoreCase && !removed.ignoreCase
  multiline := flags.multiline && !removed.multiline
  dotAll := flags.dotAll && !removed.dotAll
  verbose := flags.verbose && !removed.verbose
  ascii := flags.ascii && !removed.ascii
  unicode := flags.unicode && !removed.unicode
  unrepeated := flags.unrepeated && !removed.unrepeated

def meets (first second : Flags) : Bool :=
  (first.ignoreCase && second.ignoreCase) || (first.multiline && second.multiline) ||
    (first.dotAll && second.dotAll) || (first.verbose && second.verbose) ||
    (first.ascii && second.ascii) || (first.unicode && second.unicode) ||
    (first.unrepeated && second.unrepeated)

def choosesClasses (flags : Flags) : Bool :=
  flags.ascii || flags.unicode

/-- The flag set by a letter, for the letters that name a flag of text
expressions.  The letter for locale-dependent ones is none of these. -/
def ofLetter? : Char -> Option Flags
  | 'i' => some { ignoreCase := true }
  | 'm' => some { multiline := true }
  | 's' => some { dotAll := true }
  | 'x' => some { verbose := true }
  | 'a' => some { ascii := true }
  | 'u' => some { unicode := true }
  | 't' => some { unrepeated := true }
  | _ => none

/-- The flags as a number, each flag being one of its bits. -/
def number (flags : Flags) : Nat :=
  flags.unrepeated.toNat * 1 + flags.ignoreCase.toNat * 2 + flags.multiline.toNat * 8 +
    flags.dotAll.toNat * 16 + flags.unicode.toNat * 32 + flags.verbose.toNat * 64 +
    flags.ascii.toNat * 256

end Flags

/-- What a group does to the flags for its own extent. -/
structure FlagChange where
  added : Flags
  removed : Flags
  deriving DecidableEq, Repr

namespace FlagChange

/-- The flags inside the group, given those around it.  A choice of classes
takes the place of the one around; everything else is added, then removed. -/
def apply (change : FlagChange) (flags : Flags) : Flags :=
  let base :=
    if change.added.choosesClasses then { flags with ascii := false, unicode := false } else flags
  (base.union change.added).without change.removed

end FlagChange

end Regex
end Stencil

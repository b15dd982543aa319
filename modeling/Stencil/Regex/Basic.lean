import Stencil.Regex.Reading

namespace Stencil

/-!
Regular expressions, ready for matching.  Reading finds most of what can be
wrong; two demands are checked on the finished tree: a look-behind must have a
fixed width, which must not be excessive, and nothing may be repeated where
repetition is switched off.
-/

structure Regex where
  text : String
  flags : Regex.Flags
  /-- The number of capturing groups, which are numbered from one. -/
  groups : Nat
  /-- The numbers of the named groups. -/
  names : List (String × Nat)
  body : Regex.Expr
  deriving DecidableEq, Repr

namespace Regex

/-- The greatest width a look-behind may have. -/
def maxLookBehind : Nat := 4294967295

def Width.lookBehindProblem? (width : Width) : Option Problem :=
  if maxLookBehind < width.low then some .lookBehindTooFar
  else if width.isFixed then none
  else some .lookBehindNotFixed

/-- The first thing in the tree that a finished expression may not hold. -/
def Expr.problem? (repeatsRefused : Bool) : Expr -> Option Problem
  | .seq first second => (first.problem? repeatsRefused).or (second.problem? repeatsRefused)
  | .alt first second => (first.problem? repeatsRefused).or (second.problem? repeatsRefused)
  | .repeated mode _ _ body =>
      if repeatsRefused then some (.refusedRepeat mode) else body.problem? repeatsRefused
  | .capture _ body => body.problem? repeatsRefused
  | .flagged _ body => body.problem? repeatsRefused
  | .atomic body => body.problem? repeatsRefused
  | .look true _ body => body.width.lookBehindProblem?.or (body.problem? repeatsRefused)
  | .look false _ body => body.problem? repeatsRefused
  | .conditional _ captured otherwise =>
      (captured.problem? repeatsRefused).or (otherwise.problem? repeatsRefused)
  | _ => none

/-- The flags of a whole expression: the classes are Unicode's unless they are
ASCII's, so exactly one of the two holds. -/
def Flags.complete (flags : Flags) : Flags :=
  { flags with unicode := !flags.ascii }

def ofAssembly (text : String) (assembly : Assembly) : Except Fault Regex :=
  let body := Expr.sequence (Assembly.items assembly.frame)
  match body.problem? assembly.flags.unrepeated with
  | some problem => .error (.invalid problem none)
  | none => .ok ⟨text, assembly.flags.complete, assembly.groupCount, assembly.names, body⟩

/-- The regular expression that a text stands for, or the error with its place
in the text. -/
def compile (text : String) : Except Error Regex :=
  match Reading.read text.toList >>= ofAssembly text with
  | .ok regex => .ok regex
  | .error fault => .error (.ofFault text.toList fault)

def groupNamed? (regex : Regex) (name : String) : Option Nat :=
  regex.names.lookup name

end Regex

end Stencil

import Stencil.Failure
import Stencil.Isolation.Groups
import Stencil.Isolation.LeadingFlags
import Stencil.Regex.Basic

namespace Stencil

/-!
Isolating expressions.  An expression that is to stand inside a larger one
must neither capture nor set flags for the whole.  Its leading flags are moved
to a group of their own and its groups are made non-capturing; if that leaves
no expression, or one that still captures, it cannot be isolated.  A reference
to a group is therefore always refused, since the group is gone.
-/

namespace Isolation

/-- The text of an expression with its leading flags on a group and without
captures. -/
def rewrite? (verbose : Bool) (expression : String) : Option String :=
  (withoutCaptures? verbose (groupLeadingFlags expression.toList)).map String.ofList

end Isolation

/-- The expression for a placeholder, made fit to stand inside a larger one.
It is read before and after it is rewritten: what is invalid only afterwards
depends on a group that is gone or has been misread, and what still captures
has been misread. -/
def isolate (name expression : String) : Outcome String := do
  let regex ← (Regex.compile expression).mapError (Failure.ofRegexError (.expression name))
  let isolated ←
    match Isolation.rewrite? regex.flags.verbose expression with
    | some isolated => pure isolated
    | none => throw .unclosed
  let isolatedRegex ←
    (Regex.compile isolated).mapError (Failure.ofRegexError (.dependentExpression name))
  if isolatedRegex.groups = 0 then pure isolated else throw (.capturingExpression name)

end Stencil

import Stencil.Filling

namespace Stencil
namespace Filling

/-!
Answering by a script: the answers are given beforehand, in order, and the
questions are kept.
-/

structure Script where
  replies : List String
  /-- The questions asked so far, last first. -/
  asked : List String
  deriving DecidableEq, Repr

namespace Script

def ask (question : String) : StateM Script (Outcome String) := fun script =>
  let asked := question :: script.asked
  match script.replies with
  | [] => (.error .endOfInput, { script with asked })
  | reply :: rest => (.ok reply, ⟨rest, asked⟩)

/-- Fills in a template by a script of replies.  The questions are given,
too. -/
def fill (replies : List String) (template : String) (supplied : List (Binding String)) :
    Outcome String × List String :=
  let (outcome, script) := (Filling.fill ask template supplied).run.run ⟨replies, []⟩
  (outcome, script.asked.reverse)

end Script

end Filling
end Stencil

import Stencil.Regex.Search

namespace Stencil
namespace Regex

/-!
The places that a run tries, as a list.  A run hands one place after another
to its continuation and gives the first answer, so what a run does is told by
the list of those places, in order.  The list is made along the tree with no
continuation in it: sequences are joined, alternatives appended, and an atomic
group keeps the head.

The main statement is `Expr.tries_run`.  Expressions that neither capture nor
ask what has been captured only move: all their places are the one they start
from, moved forward.
-/

/-- The places that can be gone on to, the first to be tried first.  A list
has no continuation in it, so it can be spoken of by itself. -/
abbrev Ways := Cursor -> List Cursor

namespace Ways

def consume (text : Array Char) (admits : Nat -> Bool) : Ways := fun cursor =>
  match text[cursor.position]? with
  | some character =>
      if admits character.toNat then [cursor.moveTo (cursor.position + 1)] else []
  | none => []

def stay (condition : Bool) : Ways := fun cursor =>
  if condition then [cursor] else []

def atomic (ways : Ways) : Ways := fun cursor => (ways cursor).head?.toList

def times (ways : Ways) : Nat -> Ways
  | 0 => fun cursor => [cursor]
  | count + 1 => fun cursor => (ways cursor).flatMap (times ways count)

/-- Goes on by `further` after a round that leads somewhere, and stays after
one that does not. -/
def unlessIdle (cursor : Cursor) (further : Ways) : Ways := fun reached =>
  if reached.position = cursor.position then [reached] else further reached

def greedily (ways : Ways) : Nat -> Ways
  | 0 => fun cursor => [cursor]
  | count + 1 => fun cursor =>
      (ways cursor).flatMap (unlessIdle cursor (greedily ways count)) ++ [cursor]

def lazily (ways : Ways) : Nat -> Ways
  | 0 => fun cursor => [cursor]
  | count + 1 => fun cursor =>
      cursor :: (ways cursor).flatMap (unlessIdle cursor (lazily ways count))

def possessively (ways : Ways) : Nat -> Ways
  | 0 => fun cursor => [cursor]
  | count + 1 => fun cursor =>
      match (ways cursor).head? with
      | none => [cursor]
      | some reached => unlessIdle cursor (possessively ways count) reached

def repeatedly (mode : RepeatMode) (ways : Ways) (low extra : Nat) : Ways := fun cursor =>
  match mode with
  | .greedy => (times ways low cursor).flatMap (greedily ways extra)
  | .lazy => (times ways low cursor).flatMap (lazily ways extra)
  | .possessive => (times ways.atomic low cursor).flatMap (possessively ways extra)

def fromBack (ways : Ways) (distance : Nat) (cursor : Cursor) : Option Cursor :=
  if distance ≤ cursor.position then (ways (cursor.moveTo (cursor.position - distance))).head?
  else none

def look (ways : Ways) (distance : Nat) (negated : Bool) : Ways := fun cursor =>
  match ways.fromBack distance cursor, negated with
  | some reached, false => [reached.moveTo cursor.position]
  | none, true => [cursor]
  | _, _ => []

end Ways

/-- The step tries these places, in this order, and gives the first answer of
the continuation. -/
def Step.Tries (step : Step) (ways : Ways) : Prop :=
  forall cursor next, step cursor next = (ways cursor).findSome? next

theorem findSome?_some_eq_head? {Item : Type} (items : List Item) :
    items.findSome? some = items.head? := by
  cases items <;> rfl

theorem findSome?_flatMap {First Second Answer : Type} (items : List First)
    (more : First -> List Second) (answer : Second -> Option Answer) :
    (items.flatMap more).findSome? answer =
      items.findSome? fun item => (more item).findSome? answer := by
  induction items with
  | nil => rfl
  | cons item rest inductiveHypothesis =>
      rw [List.flatMap_cons, List.findSome?_append, inductiveHypothesis, List.findSome?_cons]
      cases (more item).findSome? answer <;> rfl

namespace Step.Tries

variable {text : Array Char} {step : Step} {ways : Ways}

theorem here : Step.Tries (fun cursor next => next cursor) (fun cursor => [cursor]) :=
  fun _ _ => List.findSome?_singleton.symm

theorem consume (admits : Nat -> Bool) :
    (Step.consume text admits).Tries (Ways.consume text admits) := by
  intro cursor next
  unfold Step.consume Ways.consume
  cases text[cursor.position]? with
  | none => rfl
  | some character =>
      dsimp only
      split
      · exact List.findSome?_singleton.symm
      · rfl

theorem stay (condition : Bool) : (Step.stay condition).Tries (Ways.stay condition) := by
  intro cursor next
  unfold Step.stay Ways.stay
  split
  · exact List.findSome?_singleton.symm
  · rfl

theorem head? (tries : step.Tries ways) (cursor : Cursor) :
    step cursor some = (ways cursor).head? := by
  rw [tries cursor some, findSome?_some_eq_head?]

theorem atomic (tries : step.Tries ways) : step.atomic.Tries ways.atomic := by
  intro cursor next
  unfold Step.atomic Ways.atomic
  rw [tries.head?]
  cases (ways cursor).head? with
  | none => rfl
  | some reached => exact List.findSome?_singleton.symm

theorem compose {second : Step} {more : Ways} (tries : step.Tries ways)
    (triesMore : second.Tries more) :
    Step.Tries (fun cursor next => step cursor fun reached => second reached next)
      (fun cursor => (ways cursor).flatMap more) := by
  intro cursor next
  rw [findSome?_flatMap]
  dsimp only
  rw [tries]
  exact congrArg (fun answer => (ways cursor).findSome? answer)
    (funext fun reached => triesMore reached next)

theorem times (tries : step.Tries ways) (count : Nat) :
    (step.times count).Tries (ways.times count) := by
  induction count with
  | zero => exact here
  | succ count inductiveHypothesis => exact tries.compose inductiveHypothesis

theorem unlessIdle (tries : step.Tries ways) (cursor reached : Cursor)
    (next : Cursor -> Option Cursor) :
    (if reached.position = cursor.position then next reached else step reached next) =
      (Ways.unlessIdle cursor ways reached).findSome? next := by
  unfold Ways.unlessIdle
  split
  · exact List.findSome?_singleton.symm
  · exact tries reached next

theorem greedily (tries : step.Tries ways) (count : Nat) :
    (step.greedily count).Tries (ways.greedily count) := by
  induction count with
  | zero => exact here
  | succ count inductiveHypothesis =>
      intro cursor next
      unfold Step.greedily Ways.greedily
      rw [List.findSome?_append, findSome?_flatMap, tries, List.findSome?_singleton]
      simp only [inductiveHypothesis.unlessIdle cursor _ next]

theorem lazily (tries : step.Tries ways) (count : Nat) :
    (step.lazily count).Tries (ways.lazily count) := by
  induction count with
  | zero => exact here
  | succ count inductiveHypothesis =>
      intro cursor next
      unfold Step.lazily Ways.lazily
      rw [List.findSome?_cons, findSome?_flatMap, tries]
      simp only [inductiveHypothesis.unlessIdle cursor _ next]
      cases next cursor <;> rfl

theorem possessively (tries : step.Tries ways) (count : Nat) :
    (step.possessively count).Tries (ways.possessively count) := by
  induction count with
  | zero => exact here
  | succ count inductiveHypothesis =>
      intro cursor next
      unfold Step.possessively Ways.possessively
      rw [tries.head?]
      cases (ways cursor).head? with
      | none => exact List.findSome?_singleton.symm
      | some reached => exact inductiveHypothesis.unlessIdle cursor reached next

theorem repeatedly (tries : step.Tries ways) (mode : RepeatMode) (low extra : Nat) :
    (step.repeatedly mode low extra).Tries (ways.repeatedly mode low extra) := by
  cases mode with
  | greedy => exact (tries.times low).compose (tries.greedily extra)
  | lazy => exact (tries.times low).compose (tries.lazily extra)
  | possessive => exact (tries.atomic.times low).compose (tries.possessively extra)

theorem look (tries : step.Tries ways) (distance : Nat) (negated : Bool) :
    (step.look distance negated).Tries (ways.look distance negated) := by
  intro cursor next
  have same : step.fromBack distance cursor = ways.fromBack distance cursor := by
    unfold Step.fromBack Ways.fromBack
    split
    · exact tries.head? _
    · rfl
  unfold Step.look Ways.look
  rw [same]
  cases ways.fromBack distance cursor with
  | none =>
      cases negated with
      | true => exact List.findSome?_singleton.symm
      | false => rfl
  | some reached =>
      cases negated with
      | true => rfl
      | false => exact List.findSome?_singleton.symm

end Step.Tries

namespace Expr

/-- The places that a run of the expression tries, by recursion on the
expression and with the same cases as the run. -/
def ways (text : Array Char) : Expr -> Flags -> Ways
  | .empty, _ => fun cursor => [cursor]
  | .literal negated code, flags => .consume text fun candidate =>
      codeAdmits flags code candidate != negated
  | .any, flags => .consume text fun candidate => flags.dotAll || candidate != '\n'.toNat
  | .set negated members, flags => .consume text fun candidate =>
      membersAdmit flags members candidate != negated
  | .anchor place, flags => fun cursor => Ways.stay (place.holds text flags cursor.position) cursor
  | .reference group _, flags => fun cursor =>
      match cursor.captured? group with
      | none => []
      | some (first, last) =>
          if cursor.position + (last - first) ≤ text.size &&
              recurs text flags first last cursor.position then
            [cursor.moveTo (cursor.position + (last - first))]
          else
            []
  | .seq first second, flags => fun cursor =>
      (ways text first flags cursor).flatMap (ways text second flags)
  | .alt first second, flags => fun cursor =>
      ways text first flags cursor ++ ways text second flags cursor
  | .repeated mode low high body, flags => fun cursor =>
      Ways.repeatedly mode (ways text body flags) low (extraRounds text low high cursor.position)
        cursor
  | .capture group body, flags => fun cursor =>
      (ways text body flags (cursor.openGroup group)).map fun reached => reached.closeGroup group
  | .flagged change body, flags => ways text body (change.apply flags)
  | .atomic body, flags => (ways text body flags).atomic
  | .look behind negated body, flags =>
      (ways text body flags).look (if behind then body.width.low else 0) negated
  | .conditional group captured otherwise, flags => fun cursor =>
      if (cursor.captured? group).isSome then ways text captured flags cursor
      else ways text otherwise flags cursor

/-- A run tries its places in order.  From here on what is proved of runs is
proved of lists of places. -/
theorem tries_run (text : Array Char) (expr : Expr) (flags : Flags) :
    (run text expr flags).Tries (ways text expr flags) := by
  induction expr generalizing flags with
  | empty => exact .here
  | literal negated code => exact .consume _
  | any => exact .consume _
  | set negated members => exact .consume _
  | anchor anchor => exact fun cursor next => Step.Tries.stay _ cursor next
  | reference group width =>
      intro cursor next
      unfold run ways
      cases cursor.captured? group with
      | none => rfl
      | some span =>
          obtain ⟨first, last⟩ := span
          dsimp only
          split
          · exact List.findSome?_singleton.symm
          · rfl
  | seq first second firstTries secondTries => exact (firstTries flags).compose (secondTries flags)
  | alt first second firstTries secondTries =>
      intro cursor next
      unfold run ways
      rw [List.findSome?_append, firstTries, secondTries]
  | repeated mode low high body bodyTries =>
      exact fun cursor next => (bodyTries flags).repeatedly mode low _ cursor next
  | capture group body bodyTries =>
      intro cursor next
      unfold run ways
      rw [List.findSome?_map, bodyTries]
      rfl
  | flagged change body bodyTries => exact bodyTries (change.apply flags)
  | atomic body bodyTries => exact (bodyTries flags).atomic
  | look behind negated body bodyTries => exact (bodyTries flags).look _ _
  | conditional group captured otherwise capturedTries otherwiseTries =>
      intro cursor next
      unfold run ways
      split
      · exact capturedTries flags cursor next
      · exact otherwiseTries flags cursor next

/-- Every place tried lies neither before the one started from nor beyond the
end. -/
theorem position_of_mem_ways {text : Array Char} {expr : Expr} {flags : Flags}
    {cursor reached : Cursor} (inside : cursor.position ≤ text.size)
    (member : reached ∈ ways text expr flags cursor) :
    cursor.position ≤ reached.position ∧ reached.position ≤ text.size := by
  let next : Cursor -> Option Cursor := fun place => if place = reached then some place else none
  have found : ((ways text expr flags cursor).findSome? next).isSome := by
    rw [List.findSome?_isSome_iff]
    exact ⟨reached, member, by simp [next]⟩
  obtain ⟨answer, ran⟩ := Option.isSome_iff_exists.mp found
  rw [← tries_run text expr flags cursor next] at ran
  obtain ⟨place, after, before, accepted⟩ :=
    isForward_run text expr flags cursor next answer inside ran
  simp only [next] at accepted
  split at accepted
  · rename_i same
    exact same ▸ ⟨after, before⟩
  · cases accepted

/-- Whether the expression neither captures nor depends on what has been
captured. -/
def isGroupFree : Expr -> Bool
  | .reference _ _ => false
  | .capture _ _ => false
  | .conditional _ _ _ => false
  | .seq first second => first.isGroupFree && second.isGroupFree
  | .alt first second => first.isGroupFree && second.isGroupFree
  | .repeated _ _ _ body => body.isGroupFree
  | .flagged _ body => body.isGroupFree
  | .atomic body => body.isGroupFree
  | .look _ _ body => body.isGroupFree
  | _ => true

end Expr

/-- The places only differ from the one started from by their positions:
nothing has been captured on the way. -/
def Ways.OnlyMove (ways : Ways) : Prop :=
  forall cursor reached, reached ∈ ways cursor -> reached = cursor.moveTo reached.position

namespace Ways.OnlyMove

variable {ways more : Ways}

theorem here : OnlyMove fun cursor => [cursor] := by
  intro cursor reached member
  cases List.mem_singleton.mp member
  rfl

theorem consume (text : Array Char) (admits : Nat -> Bool) : OnlyMove (.consume text admits) := by
  intro cursor reached member
  unfold Ways.consume at member
  split at member
  · split at member
    · cases List.mem_singleton.mp member
      rfl
    · cases member
  · cases member

theorem step {first second third : Cursor} (before : second = first.moveTo second.position)
    (after : third = second.moveTo third.position) : third = first.moveTo third.position := by
  rw [after, before]
  rfl

theorem flatMap (onlyMove : ways.OnlyMove) (moreOnlyMove : more.OnlyMove) :
    OnlyMove fun cursor => (ways cursor).flatMap more := by
  intro cursor reached member
  obtain ⟨middle, first, second⟩ := List.mem_flatMap.mp member
  exact step (onlyMove cursor middle first) (moreOnlyMove middle reached second)

theorem atomic (onlyMove : ways.OnlyMove) : ways.atomic.OnlyMove := by
  intro cursor reached member
  exact onlyMove cursor reached (List.mem_of_head? (Option.mem_toList.mp member))

theorem times (onlyMove : ways.OnlyMove) (count : Nat) : (ways.times count).OnlyMove := by
  induction count with
  | zero => exact here
  | succ count inductiveHypothesis => exact onlyMove.flatMap inductiveHypothesis

theorem unlessIdle (onlyMove : ways.OnlyMove) (cursor : Cursor) :
    (Ways.unlessIdle cursor ways).OnlyMove := by
  intro middle reached member
  unfold Ways.unlessIdle at member
  split at member
  · cases List.mem_singleton.mp member
    rfl
  · exact onlyMove middle reached member

theorem greedily (onlyMove : ways.OnlyMove) (count : Nat) : (ways.greedily count).OnlyMove := by
  induction count with
  | zero => exact here
  | succ count inductiveHypothesis =>
      intro cursor reached member
      rcases List.mem_append.mp member with more | done
      · exact onlyMove.flatMap (inductiveHypothesis.unlessIdle cursor) cursor reached more
      · exact here cursor reached done

theorem lazily (onlyMove : ways.OnlyMove) (count : Nat) : (ways.lazily count).OnlyMove := by
  induction count with
  | zero => exact here
  | succ count inductiveHypothesis =>
      intro cursor reached member
      rcases List.mem_cons.mp member with rfl | more
      · rfl
      · exact onlyMove.flatMap (inductiveHypothesis.unlessIdle cursor) cursor reached more

theorem possessively (onlyMove : ways.OnlyMove) (count : Nat) :
    (ways.possessively count).OnlyMove := by
  induction count with
  | zero => exact here
  | succ count inductiveHypothesis =>
      intro cursor reached member
      unfold Ways.possessively at member
      split at member
      · exact here cursor reached member
      · rename_i middle first
        exact step (onlyMove cursor middle (List.mem_of_head? first))
          (inductiveHypothesis.unlessIdle cursor middle reached member)

theorem repeatedly (onlyMove : ways.OnlyMove) (mode : RepeatMode) (low extra : Nat) :
    (ways.repeatedly mode low extra).OnlyMove := by
  cases mode with
  | greedy => exact (onlyMove.times low).flatMap (onlyMove.greedily extra)
  | lazy => exact (onlyMove.times low).flatMap (onlyMove.lazily extra)
  | possessive => exact (onlyMove.atomic.times low).flatMap (onlyMove.possessively extra)

theorem look (onlyMove : ways.OnlyMove) (distance : Nat) (negated : Bool) :
    (ways.look distance negated).OnlyMove := by
  intro cursor reached member
  unfold Ways.look at member
  split at member
  · rename_i place found
    cases List.mem_singleton.mp member
    unfold Ways.fromBack at found
    split at found
    · rw [onlyMove _ place (List.mem_of_head? found)]
      rfl
    · cases found
  · cases List.mem_singleton.mp member
    rfl
  · cases member

end Ways.OnlyMove

namespace Expr

/-- Without groups nothing is captured on the way, so a run is as good as the
positions it leads to. -/
theorem onlyMove_ways {text : Array Char} {expr : Expr} (groupFree : expr.isGroupFree = true)
    (flags : Flags) : (ways text expr flags).OnlyMove := by
  induction expr generalizing flags with
  | empty => exact .here
  | literal negated code => exact .consume _ _
  | any => exact .consume _ _
  | set negated members => exact .consume _ _
  | anchor anchor =>
      intro cursor reached member
      simp only [ways, Ways.stay] at member
      split at member
      · cases List.mem_singleton.mp member
        rfl
      · cases member
  | reference group width => cases groupFree
  | seq first second firstMoves secondMoves =>
      rw [isGroupFree, Bool.and_eq_true] at groupFree
      exact (firstMoves groupFree.1 flags).flatMap (secondMoves groupFree.2 flags)
  | alt first second firstMoves secondMoves =>
      rw [isGroupFree, Bool.and_eq_true] at groupFree
      intro cursor reached member
      rcases List.mem_append.mp member with left | right
      · exact firstMoves groupFree.1 flags cursor reached left
      · exact secondMoves groupFree.2 flags cursor reached right
  | repeated mode low high body bodyMoves =>
      intro cursor reached member
      exact (bodyMoves groupFree flags).repeatedly mode low _ cursor reached member
  | capture group body _ => cases groupFree
  | flagged change body bodyMoves => exact bodyMoves groupFree (change.apply flags)
  | atomic body bodyMoves => exact (bodyMoves groupFree flags).atomic
  | look behind negated body bodyMoves => exact (bodyMoves groupFree flags).look _ _
  | conditional group captured otherwise _ _ => cases groupFree

theorem ways_sequence_cons (text : Array Char) (item : Expr) (rest : List Expr) (flags : Flags)
    (cursor : Cursor) :
    ways text (sequence (item :: rest)) flags cursor =
      (ways text item flags cursor).flatMap (ways text (sequence rest) flags) := by
  cases rest with
  | nil => exact (List.flatMap_singleton' _).symm
  | cons second others => rfl

end Expr

end Regex
end Stencil

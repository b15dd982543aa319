import Stencil.Proofs.Running.FirstSet
import Stencil.Proofs.Running.Ways

namespace Stencil
namespace Regex

/-!
When two ways of going on come to the same.  They may try different numbers of
places and capture different things on the way; what counts is that whoever
looks at positions only, and takes the first place that suits, gets the same
answer from both.  So a place that is tried a second time makes no difference,
and neither does what has been captured.

Equivalence goes through everything that expressions are made of, references
and conditions apart.  A round of a repetition that leads nowhere is one on
both sides, since that is a matter of positions, too.
-/

/-- The places give the same first answer to whoever looks at their positions
only.  They need not be as many: a place that comes again gives no new
answer. -/
structure SamePlaces (first second : List Cursor) : Prop where
  answer : forall {Answer : Type} (accept : Nat -> Option Answer),
    (first.findSome? fun reached => accept reached.position) =
      second.findSome? fun reached => accept reached.position

/-- From the same position the ways lead to the same places.  What has been
captured before may differ, and what is captured on the way as well. -/
def Ways.Equivalent (first second : Ways) : Prop :=
  forall cursor other : Cursor, cursor.position = other.position ->
    SamePlaces (first cursor) (second other)

namespace SamePlaces

variable {first second third fourth : List Cursor}

theorem nil : SamePlaces [] [] := ⟨fun _ => rfl⟩

theorem single {reached other : Cursor} (same : reached.position = other.position) :
    SamePlaces [reached] [other] := by
  refine ⟨fun accept => ?_⟩
  rw [List.findSome?_singleton, List.findSome?_singleton, same]

theorem append (front : SamePlaces first second) (back : SamePlaces third fourth) :
    SamePlaces (first ++ third) (second ++ fourth) := by
  refine ⟨fun accept => ?_⟩
  rw [List.findSome?_append, List.findSome?_append, front.answer, back.answer]

/-- Going on alike from the same places leads to the same places, since the
answer from further on is a matter of the position too. -/
theorem flatMap (places : SamePlaces first second) {more further : Ways}
    (equivalent : more.Equivalent further) :
    SamePlaces (first.flatMap more) (second.flatMap further) := by
  refine ⟨fun {Answer} accept => ?_⟩
  let onward : Nat -> Option Answer := fun position =>
    (further (.start position)).findSome? fun reached => accept reached.position
  have left : forall cursor : Cursor,
      ((more cursor).findSome? fun reached => accept reached.position) = onward cursor.position :=
    fun cursor => (equivalent cursor (.start cursor.position) rfl).answer accept
  have right : forall cursor : Cursor,
      ((further cursor).findSome? fun reached => accept reached.position) =
        onward cursor.position := by
    intro cursor
    have start := equivalent (.start cursor.position) (.start cursor.position) rfl
    have here := equivalent (.start cursor.position) cursor rfl
    exact (here.answer accept).symm.trans (start.answer accept)
  rw [findSome?_flatMap, findSome?_flatMap]
  simp only [left, right]
  exact places.answer onward

theorem head? (places : SamePlaces first second) :
    first.head?.map Cursor.position = second.head?.map Cursor.position := by
  have heads : forall cursors : List Cursor,
      (cursors.findSome? fun reached => some reached.position) =
        cursors.head?.map Cursor.position := by
    intro cursors
    cases cursors <;> rfl
  rw [← heads, ← heads]
  exact places.answer some

end SamePlaces

namespace Ways.Equivalent

variable {first second third fourth : Ways}

theorem trans (before : first.Equivalent second) (after : second.Equivalent third) :
    first.Equivalent third := by
  intro cursor other same
  refine ⟨fun accept => ?_⟩
  have front := (before cursor other same).answer accept
  exact front.trans ((after other other rfl).answer accept)

theorem symm (equivalent : first.Equivalent second) : second.Equivalent first := by
  intro cursor other same
  exact ⟨fun accept => ((equivalent other cursor same.symm).answer accept).symm⟩

theorem here : Ways.Equivalent (fun cursor => [cursor]) (fun cursor => [cursor]) :=
  fun _ _ same => .single same

theorem consume (text : Array Char) (admits : Nat -> Bool) :
    Ways.Equivalent (.consume text admits) (.consume text admits) := by
  intro cursor other same
  unfold Ways.consume
  rw [same]
  split
  · split
    · exact .single rfl
    · exact .nil
  · exact .nil

theorem flatMap (before : first.Equivalent second) (after : third.Equivalent fourth) :
    Ways.Equivalent (fun cursor => (first cursor).flatMap third)
      (fun cursor => (second cursor).flatMap fourth) :=
  fun cursor other same => (before cursor other same).flatMap after

theorem append (before : first.Equivalent second) (after : third.Equivalent fourth) :
    Ways.Equivalent (fun cursor => first cursor ++ third cursor)
      (fun cursor => second cursor ++ fourth cursor) :=
  fun cursor other same => (before cursor other same).append (after cursor other same)

theorem atomic (equivalent : first.Equivalent second) : first.atomic.Equivalent second.atomic := by
  intro cursor other same
  have heads := (equivalent cursor other same).head?
  unfold Ways.atomic
  cases leftHead : (first cursor).head? with
  | none =>
      rw [leftHead, Option.map_none, eq_comm, Option.map_eq_none_iff] at heads
      rw [heads]
      exact .nil
  | some reached =>
      rw [leftHead, Option.map_some, eq_comm, Option.map_eq_some_iff] at heads
      rcases heads with ⟨place, found, samePlace⟩
      rw [found]
      exact .single samePlace.symm

theorem times (equivalent : first.Equivalent second) (count : Nat) :
    (first.times count).Equivalent (second.times count) := by
  induction count with
  | zero => exact here
  | succ count inductiveHypothesis => exact equivalent.flatMap inductiveHypothesis

theorem unlessIdle (equivalent : first.Equivalent second) {cursor other : Cursor}
    (same : cursor.position = other.position) :
    (Ways.unlessIdle cursor first).Equivalent (Ways.unlessIdle other second) := by
  intro reached place samePlace
  unfold Ways.unlessIdle
  rw [same, samePlace]
  split
  · exact .single samePlace
  · exact equivalent reached place samePlace

theorem greedily (equivalent : first.Equivalent second) (count : Nat) :
    (first.greedily count).Equivalent (second.greedily count) := by
  induction count with
  | zero => exact here
  | succ count inductiveHypothesis =>
      intro cursor other same
      have more := (equivalent cursor other same).flatMap (inductiveHypothesis.unlessIdle same)
      exact more.append (.single same)

theorem lazily (equivalent : first.Equivalent second) (count : Nat) :
    (first.lazily count).Equivalent (second.lazily count) := by
  induction count with
  | zero => exact here
  | succ count inductiveHypothesis =>
      intro cursor other same
      have more := (equivalent cursor other same).flatMap (inductiveHypothesis.unlessIdle same)
      exact (SamePlaces.single same).append more

theorem possessively (equivalent : first.Equivalent second) (count : Nat) :
    (first.possessively count).Equivalent (second.possessively count) := by
  induction count with
  | zero => exact here
  | succ count inductiveHypothesis =>
      intro cursor other same
      have heads := (equivalent cursor other same).head?
      unfold Ways.possessively
      cases leftHead : (first cursor).head? with
      | none =>
          rw [leftHead, Option.map_none, eq_comm, Option.map_eq_none_iff] at heads
          rw [heads]
          exact .single same
      | some reached =>
          rw [leftHead, Option.map_some, eq_comm, Option.map_eq_some_iff] at heads
          rcases heads with ⟨place, found, samePlace⟩
          rw [found]
          exact inductiveHypothesis.unlessIdle same reached place samePlace.symm

theorem repeatedly (equivalent : first.Equivalent second) (mode : RepeatMode) (low extra : Nat) :
    (Ways.repeatedly mode first low extra).Equivalent (Ways.repeatedly mode second low extra) := by
  cases mode with
  | greedy => exact (equivalent.times low).flatMap (equivalent.greedily extra)
  | lazy => exact (equivalent.times low).flatMap (equivalent.lazily extra)
  | possessive => exact (equivalent.atomic.times low).flatMap (equivalent.possessively extra)

theorem look (equivalent : first.Equivalent second) (distance : Nat) (negated : Bool) :
    (first.look distance negated).Equivalent (second.look distance negated) := by
  intro cursor other same
  have found : (first.fromBack distance cursor).isSome = (second.fromBack distance other).isSome := by
    unfold Ways.fromBack
    rw [same]
    split
    · have moved := equivalent (cursor.moveTo (other.position - distance))
        (other.moveTo (other.position - distance)) rfl
      have heads := congrArg Option.isSome moved.head?
      rwa [Option.isSome_map, Option.isSome_map] at heads
    · rfl
  unfold Ways.look
  cases left : first.fromBack distance cursor with
  | none =>
      rw [left, Option.isSome_none, eq_comm, Option.isSome_eq_false_iff,
        Option.isNone_iff_eq_none] at found
      rw [found]
      cases negated with
      | true => exact .single same
      | false => exact .nil
  | some reached =>
      rw [left, Option.isSome_some, eq_comm, Option.isSome_iff_exists] at found
      rcases found with ⟨place, behind⟩
      rw [behind]
      cases negated with
      | true => exact .nil
      | false => exact .single same

/-- What is captured on the way makes no difference, as long as nobody asks
for it. -/
theorem capture (equivalent : first.Equivalent second) (group : Nat) :
    Ways.Equivalent (fun cursor =>
      (first (cursor.openGroup group)).map fun reached => reached.closeGroup group) second := by
  intro cursor other same
  refine ⟨fun accept => ?_⟩
  rw [List.findSome?_map]
  exact (equivalent (cursor.openGroup group) other same).answer accept

end Ways.Equivalent

namespace Expr

/-- Whether the expression never asks what has been captured: neither a
reference nor a condition is in it. -/
def isPositional : Expr -> Bool
  | .reference _ _ => false
  | .conditional _ _ _ => false
  | .seq first second => first.isPositional && second.isPositional
  | .alt first second => first.isPositional && second.isPositional
  | .repeated _ _ _ body => body.isPositional
  | .capture _ body => body.isPositional
  | .flagged _ body => body.isPositional
  | .atomic body => body.isPositional
  | .look _ _ body => body.isPositional
  | _ => true

/-- Where an expression leads is a matter of the position, if it never asks
for captures. -/
theorem equivalent_self (text : Array Char) {expr : Expr} (positional : expr.isPositional = true)
    (flags : Flags) : (ways text expr flags).Equivalent (ways text expr flags) := by
  induction expr generalizing flags with
  | empty => exact .here
  | literal negated code => exact .consume _ _
  | any => exact .consume _ _
  | set negated members => exact .consume _ _
  | anchor anchor =>
      intro cursor other same
      unfold ways Ways.stay
      rw [same]
      split
      · exact .single same
      · exact .nil
  | reference group width => cases positional
  | seq first second firstSelf secondSelf =>
      have both := Bool.and_eq_true_iff.mp positional
      exact (firstSelf both.1 flags).flatMap (secondSelf both.2 flags)
  | alt first second firstSelf secondSelf =>
      have both := Bool.and_eq_true_iff.mp positional
      exact (firstSelf both.1 flags).append (secondSelf both.2 flags)
  | repeated mode low high body bodySelf =>
      intro cursor other same
      have rounds := (bodySelf positional flags).repeatedly mode low
        (extraRounds text low high other.position)
      unfold ways
      rw [same]
      exact rounds cursor other same
  | capture group body bodySelf =>
      exact (((bodySelf positional flags).capture group).symm.capture group).symm
  | flagged change body bodySelf => exact bodySelf positional (change.apply flags)
  | atomic body bodySelf => exact (bodySelf positional flags).atomic
  | look behind negated body bodySelf => exact (bodySelf positional flags).look _ _
  | conditional group captured otherwise _ _ => cases positional

end Expr

/-! ## Matches at the same places -/

def Match.span (found : Match) : Nat × Nat :=
  (found.start, found.stop)

section

variable {regex other : Regex} {text : Array Char}

/-- What is tried for a match at a place is a matter of positions, if only its
span is wanted. -/
theorem span_matchAt? (regex : Regex) (text : Array Char) (start : Nat) (accepts : Nat -> Bool) :
    (regex.matchAt? text start accepts).map Match.span =
      (regex.body.ways text regex.flags (.start start)).findSome? fun reached =>
        if accepts reached.position then some (start, reached.position) else none := by
  unfold matchAt?
  rw [Expr.tries_run, Option.map_map, List.map_findSome?]
  congr 1
  funext reached
  dsimp only [Function.comp_apply]
  split <;> rfl

variable (equivalent :
  (regex.body.ways text regex.flags).Equivalent (other.body.ways text other.flags))

include equivalent

/-- Ways to the same places match the same from every place, whatever end is
accepted. -/
theorem span_matchAt?_congr (start : Nat) (accepts : Nat -> Bool) :
    (regex.matchAt? text start accepts).map Match.span =
      (other.matchAt? text start accepts).map Match.span := by
  have places := equivalent (.start start) (.start start) rfl
  rw [span_matchAt?, span_matchAt?]
  exact places.answer fun position => if accepts position then some (start, position) else none

theorem span_searchAmong?_congr (alike : regex.PassesAlike other) (count start : Nat) :
    (regex.searchAmong? text count start).map Match.span =
      (other.searchAmong? text count start).map Match.span := by
  induction count generalizing start with
  | zero => rfl
  | succ count inductiveHypothesis =>
      unfold searchAmong?
      have here := alike.map_tryAt? (span_matchAt?_congr equivalent start fun _ => true)
      rw [Option.map_or, Option.map_or, here, inductiveHypothesis]

/-- Ways to the same places find the same, if a search passes over the same
places. -/
theorem span_search?_congr (alike : regex.PassesAlike other) (start : Nat) (nonEmpty : Bool) :
    (regex.search? text start nonEmpty).map Match.span =
      (other.search? text start nonEmpty).map Match.span := by
  unfold search?
  split
  · rfl
  · have here := alike.map_tryAt?
      (span_matchAt?_congr equivalent start fun stop => !nonEmpty || stop != start)
    rw [Option.map_or, Option.map_or, here, span_searchAmong?_congr equivalent alike]

theorem isSome_matchWhole?_congr :
    (regex.matchWhole? text).isSome = (other.matchWhole? text).isSome := by
  have same := congrArg Option.isSome
    (span_matchAt?_congr equivalent 0 fun stop => stop == text.size)
  rw [Option.isSome_map, Option.isSome_map] at same
  exact same

end

end Regex
end Stencil

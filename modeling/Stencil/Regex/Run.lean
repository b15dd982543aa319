import Stencil.Regex.Membership

namespace Stencil
namespace Regex

/-!
Matching by backtracking.  An expression is run from a place in the text, with
a continuation that says what has to follow; the run tries the ways of
matching in order and gives the answer of the first one that the continuation
accepts.  Alternatives are tried from left to right, greedy repetitions from
the longest down and lazy ones from the shortest up.

The main statement is `Expr.isForward_run`: an answer is always the
continuation's answer at some place that lies neither before the one the run
started from nor beyond the end of the text.
-/

/-- A place in a text, with what the groups have captured on the way to it.
For each group the lists hold where it was opened and where it was closed, the
latest first. -/
structure Cursor where
  position : Nat
  opened : List (Nat × Nat)
  closed : List (Nat × Nat)
  deriving DecidableEq, Repr

namespace Cursor

def start (position : Nat) : Cursor := ⟨position, [], []⟩

def moveTo (cursor : Cursor) (position : Nat) : Cursor :=
  { cursor with position }

def openGroup (cursor : Cursor) (group : Nat) : Cursor :=
  { cursor with opened := (group, cursor.position) :: cursor.opened }

def closeGroup (cursor : Cursor) (group : Nat) : Cursor :=
  { cursor with closed := (group, cursor.position) :: cursor.closed }

/-- Where the text begins and ends that a group has captured.  Inside a group
that has been opened again, that is nothing unless the group was last closed
after its latest opening or at that place. -/
def captured? (cursor : Cursor) (group : Nat) : Option (Nat × Nat) :=
  match cursor.opened.lookup group, cursor.closed.lookup group with
  | some first, some last => if first ≤ last then some (first, last) else none
  | _, _ => none

end Cursor

/-- One way of going on from a place: it tries places for the continuation, in
order, and gives the first answer.  Turning back is asking the continuation
again at another place. -/
abbrev Step := Cursor -> (Cursor -> Option Cursor) -> Option Cursor

namespace Step

/-- Goes on over one character that the test admits. -/
def consume (text : Array Char) (admits : Nat -> Bool) : Step := fun cursor next =>
  match text[cursor.position]? with
  | some character =>
      if admits character.toNat then next (cursor.moveTo (cursor.position + 1)) else none
  | none => none

def stay (condition : Bool) : Step := fun cursor next =>
  if condition then next cursor else none

/-- Takes the first way of going on, and no other.  Once the continuation has
been reached it cannot make the step turn back. -/
def atomic (step : Step) : Step := fun cursor next =>
  (step cursor some).bind next

/-- Goes on exactly so many times. -/
def times (step : Step) : Nat -> Step
  | 0 => fun cursor next => next cursor
  | count + 1 => fun cursor next => step cursor fun reached => times step count reached next

/-- Goes on up to so many times, as often as possible first.  A round that
leads nowhere is the last, so that an empty match is not repeated for ever. -/
def greedily (step : Step) : Nat -> Step
  | 0 => fun cursor next => next cursor
  | count + 1 => fun cursor next =>
      (step cursor fun reached =>
        if reached.position = cursor.position then next reached
        else greedily step count reached next).or (next cursor)

/-- Goes on up to so many times, as rarely as possible first.  A round that
leads nowhere is the last. -/
def lazily (step : Step) : Nat -> Step
  | 0 => fun cursor next => next cursor
  | count + 1 => fun cursor next =>
      (next cursor).or
        (step cursor fun reached =>
          if reached.position = cursor.position then next reached
          else lazily step count reached next)

/-- Goes on up to so many times, each time in the first way possible and
without turning back. -/
def possessively (step : Step) : Nat -> Step
  | 0 => fun cursor next => next cursor
  | count + 1 => fun cursor next =>
      match step cursor some with
      | none => next cursor
      | some reached =>
          if reached.position = cursor.position then next reached
          else possessively step count reached next

/-- Goes on `low` times and then up to `extra` times more. -/
def repeatedly (mode : RepeatMode) (step : Step) (low extra : Nat) : Step := fun cursor next =>
  match mode with
  | .greedy => times step low cursor fun reached => greedily step extra reached next
  | .lazy => times step low cursor fun reached => lazily step extra reached next
  | .possessive =>
      times step.atomic low cursor fun reached => possessively step extra reached next

def fromBack (step : Step) (distance : Nat) (cursor : Cursor) : Option Cursor :=
  if distance ≤ cursor.position then step (cursor.moveTo (cursor.position - distance)) some
  else none

/-- Stays in place if one can go on from so far back, or if one cannot.  What
a look that succeeds has captured stays captured. -/
def look (step : Step) (distance : Nat) (negated : Bool) : Step := fun cursor next =>
  match step.fromBack distance cursor, negated with
  | some reached, false => next (reached.moveTo cursor.position)
  | none, true => next cursor
  | _, _ => none

end Step

def isWordAt (text : Array Char) (unicode : Bool) (index : Nat) : Bool :=
  match text[index]? with
  | some character => ClassKind.word.contains unicode character.toNat
  | none => false

def isBoundary (text : Array Char) (unicode : Bool) (position : Nat) : Bool :=
  (position != 0 && isWordAt text unicode (position - 1)) != isWordAt text unicode position

def isLineFeedAt (text : Array Char) (index : Nat) : Bool :=
  text[index]? == some '\n'

/-- Whether the anchor holds at the position.  An empty text has neither kind
of word boundary. -/
def Anchor.holds (text : Array Char) (flags : Flags) (position : Nat) : Anchor -> Bool
  | .lineStart =>
      position == 0 || (flags.multiline && isLineFeedAt text (position - 1))
  | .lineEnd =>
      position == text.size ||
        (isLineFeedAt text position && (flags.multiline || position + 1 == text.size))
  | .textStart => position == 0
  | .textEnd => position == text.size
  | .wordBoundary => !text.isEmpty && isBoundary text flags.unicode position
  | .noWordBoundary => !text.isEmpty && !isBoundary text flags.unicode position

/-- Whether the characters of the text between `first` and `last` stand at the
position, too, up to case if it is ignored. -/
def recurs (text : Array Char) (flags : Flags) (first last position : Nat) : Bool :=
  let key (index : Nat) : Option Nat := text[index]?.map fun character =>
    if flags.ignoreCase then fold flags.unicode character.toNat else character.toNat
  (List.range (last - first)).all fun offset =>
    position + offset < text.size && key (first + offset) == key (position + offset)

namespace Expr

/-- The most rounds beyond the first `low` that a repetition can use from the
position.  Every round but the last moves on, so no more than these could be
of use. -/
def extraRounds (text : Array Char) (low : Nat) (high : Option Nat) (position : Nat) : Nat :=
  let useful := text.size - position + 1
  match high with
  | none => useful
  | some high => min (high - low) useful

/-- Runs an expression over the text, under the flags that hold around it.  A
group with flags of its own hands these to what stands in it and to nothing
else. -/
def run (text : Array Char) : Expr -> Flags -> Step
  | .empty, _ => fun cursor next => next cursor
  | .literal negated code, flags => .consume text fun candidate =>
      codeAdmits flags code candidate != negated
  | .any, flags => .consume text fun candidate => flags.dotAll || candidate != '\n'.toNat
  | .set negated members, flags => .consume text fun candidate =>
      membersAdmit flags members candidate != negated
  | .anchor place, flags => fun cursor =>
      Step.stay (place.holds text flags cursor.position) cursor
  | .reference group _, flags => fun cursor next =>
      match cursor.captured? group with
      | none => none
      | some (first, last) =>
          if cursor.position + (last - first) ≤ text.size &&
              recurs text flags first last cursor.position then
            next (cursor.moveTo (cursor.position + (last - first)))
          else
            none
  | .seq first second, flags => fun cursor next =>
      run text first flags cursor fun reached => run text second flags reached next
  | .alt first second, flags => fun cursor next =>
      (run text first flags cursor next).or (run text second flags cursor next)
  | .repeated mode low high body, flags => fun cursor =>
      Step.repeatedly mode (run text body flags) low (extraRounds text low high cursor.position)
        cursor
  | .capture group body, flags => fun cursor next =>
      run text body flags (cursor.openGroup group) fun reached => next (reached.closeGroup group)
  | .flagged change body, flags => run text body (change.apply flags)
  | .atomic body, flags => (run text body flags).atomic
  | .look behind negated body, flags =>
      (run text body flags).look (if behind then body.width.low else 0) negated
  | .conditional group captured otherwise, flags => fun cursor =>
      if (cursor.captured? group).isSome then run text captured flags cursor
      else run text otherwise flags cursor

end Expr

/-- A step is forward in the text if it only tries places that lie neither
before the one it starts from nor beyond the end.  Every answer then is one
that the continuation gave at such a place. -/
def Step.IsForward (text : Array Char) (step : Step) : Prop :=
  forall (cursor : Cursor) (next : Cursor -> Option Cursor) (answer : Cursor),
    cursor.position ≤ text.size -> step cursor next = some answer ->
      ∃ reached : Cursor, cursor.position ≤ reached.position ∧ reached.position ≤ text.size ∧
        next reached = some answer

namespace Step

variable {text : Array Char} {step : Step}

theorem IsForward.consume (admits : Nat -> Bool) : (Step.consume text admits).IsForward text := by
  intro cursor next answer _ found
  unfold Step.consume at found
  split at found
  · rename_i character present
    split at found
    · have inside : cursor.position < text.size := by
        have := Array.getElem?_eq_some_iff.mp present
        exact this.1
      exact ⟨cursor.moveTo (cursor.position + 1), Nat.le_succ _, inside, found⟩
    · cases found
  · cases found

theorem IsForward.atomic (forward : step.IsForward text) : step.atomic.IsForward text := by
  intro cursor next answer inside found
  obtain ⟨reached, first, second⟩ := Option.bind_eq_some_iff.mp found
  obtain ⟨place, after, before, same⟩ := forward cursor some reached inside first
  obtain rfl := Option.some.inj same
  exact ⟨place, after, before, second⟩

theorem IsForward.times (forward : step.IsForward text) (count : Nat) :
    (step.times count).IsForward text := by
  induction count with
  | zero => exact fun cursor next answer inside found => ⟨cursor, Nat.le_refl _, inside, found⟩
  | succ count inductiveHypothesis =>
      intro cursor next answer inside found
      obtain ⟨middle, after, before, rest⟩ := forward cursor _ answer inside found
      obtain ⟨place, later, limit, last⟩ := inductiveHypothesis middle next answer before rest
      exact ⟨place, Nat.le_trans after later, limit, last⟩

theorem IsForward.greedily (forward : step.IsForward text) (count : Nat) :
    (step.greedily count).IsForward text := by
  induction count with
  | zero => exact fun cursor next answer inside found => ⟨cursor, Nat.le_refl _, inside, found⟩
  | succ count inductiveHypothesis =>
      intro cursor next answer inside found
      rcases Option.or_eq_some_iff.mp found with more | ⟨_, done⟩
      · obtain ⟨middle, after, before, rest⟩ := forward cursor _ answer inside more
        split at rest
        · exact ⟨middle, after, before, rest⟩
        · obtain ⟨place, later, limit, last⟩ := inductiveHypothesis middle next answer before rest
          exact ⟨place, Nat.le_trans after later, limit, last⟩
      · exact ⟨cursor, Nat.le_refl _, inside, done⟩

theorem IsForward.lazily (forward : step.IsForward text) (count : Nat) :
    (step.lazily count).IsForward text := by
  induction count with
  | zero => exact fun cursor next answer inside found => ⟨cursor, Nat.le_refl _, inside, found⟩
  | succ count inductiveHypothesis =>
      intro cursor next answer inside found
      rcases Option.or_eq_some_iff.mp found with done | ⟨_, more⟩
      · exact ⟨cursor, Nat.le_refl _, inside, done⟩
      · obtain ⟨middle, after, before, rest⟩ := forward cursor _ answer inside more
        split at rest
        · exact ⟨middle, after, before, rest⟩
        · obtain ⟨place, later, limit, last⟩ := inductiveHypothesis middle next answer before rest
          exact ⟨place, Nat.le_trans after later, limit, last⟩

theorem IsForward.possessively (forward : step.IsForward text) (count : Nat) :
    (step.possessively count).IsForward text := by
  induction count with
  | zero => exact fun cursor next answer inside found => ⟨cursor, Nat.le_refl _, inside, found⟩
  | succ count inductiveHypothesis =>
      intro cursor next answer inside found
      unfold Step.possessively at found
      split at found
      · exact ⟨cursor, Nat.le_refl _, inside, found⟩
      · rename_i reached round
        obtain ⟨place, after, before, same⟩ := forward cursor some reached inside round
        obtain rfl := Option.some.inj same
        split at found
        · exact ⟨place, after, before, found⟩
        · obtain ⟨final, later, limit, last⟩ := inductiveHypothesis place next answer before found
          exact ⟨final, Nat.le_trans after later, limit, last⟩

/-- Looking is forward whatever the step is, since it comes back to the place
it started from. -/
theorem IsForward.look (step : Step) (distance : Nat) (negated : Bool) :
    (step.look distance negated).IsForward text := by
  intro cursor next answer inside found
  unfold Step.look at found
  split at found
  · rename_i reached _
    exact ⟨reached.moveTo cursor.position, Nat.le_refl _, inside, found⟩
  · exact ⟨cursor, Nat.le_refl _, inside, found⟩
  · cases found

/-- One step after another is forward if both are. -/
theorem IsForward.compose {first : Step} {second : Cursor -> Step}
    (firstForward : first.IsForward text)
    (secondForward : forall cursor, (second cursor).IsForward text) :
    Step.IsForward text fun cursor next =>
      first cursor fun reached => second cursor reached next := by
  intro cursor next answer inside found
  obtain ⟨middle, after, before, rest⟩ := firstForward cursor _ answer inside found
  obtain ⟨place, later, limit, last⟩ := secondForward cursor middle next answer before rest
  exact ⟨place, Nat.le_trans after later, limit, last⟩

theorem IsForward.repeatedly (forward : step.IsForward text) (mode : RepeatMode) (low extra : Nat) :
    (step.repeatedly mode low extra).IsForward text := by
  cases mode with
  | greedy => exact (forward.times low).compose fun _ => forward.greedily extra
  | lazy => exact (forward.times low).compose fun _ => forward.lazily extra
  | possessive => exact (forward.atomic.times low).compose fun _ => forward.possessively extra

end Step

namespace Expr

/-- Every expression is forward, so what it matches lies in the text and does
not end before it starts. -/
theorem isForward_run (text : Array Char) (expr : Expr) (flags : Flags) :
    (run text expr flags).IsForward text := by
  induction expr generalizing flags with
  | empty => exact fun cursor next answer inside found => ⟨cursor, Nat.le_refl _, inside, found⟩
  | literal negated code => exact .consume _
  | any => exact .consume _
  | set negated members => exact .consume _
  | anchor anchor =>
      intro cursor next answer inside found
      simp only [run, Step.stay] at found
      split at found
      · exact ⟨cursor, Nat.le_refl _, inside, found⟩
      · cases found
  | reference group width =>
      intro cursor next answer inside found
      simp only [run] at found
      split at found
      · cases found
      · split at found
        · rename_i matched
          rw [Bool.and_eq_true, decide_eq_true_eq] at matched
          exact ⟨cursor.moveTo (cursor.position + _), Nat.le_add_right _ _, matched.1, found⟩
        · cases found
  | seq first second firstForward secondForward =>
      exact (firstForward flags).compose fun _ => secondForward flags
  | alt first second firstForward secondForward =>
      intro cursor next answer inside found
      rcases Option.or_eq_some_iff.mp found with left | ⟨_, right⟩
      · exact firstForward flags cursor next answer inside left
      · exact secondForward flags cursor next answer inside right
  | repeated mode low high body bodyForward =>
      intro cursor next answer inside found
      exact (bodyForward flags).repeatedly mode low _ cursor next answer inside found
  | capture group body bodyForward =>
      intro cursor next answer inside found
      obtain ⟨place, after, limit, last⟩ :=
        bodyForward flags (cursor.openGroup group) _ answer inside found
      exact ⟨place.closeGroup group, after, limit, last⟩
  | flagged change body bodyForward => exact bodyForward (change.apply flags)
  | atomic body bodyForward => exact (bodyForward flags).atomic
  | look behind negated body _ => exact .look _ _ negated
  | conditional group captured otherwise capturedForward otherwiseForward =>
      intro cursor next answer inside found
      simp only [run] at found
      split at found
      · exact capturedForward flags cursor next answer inside found
      · exact otherwiseForward flags cursor next answer inside found

end Expr

end Regex
end Stencil

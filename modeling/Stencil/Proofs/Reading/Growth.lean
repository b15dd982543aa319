import Mathlib.Logic.Relation
import Stencil.Proofs.Outcome
import Stencil.Regex.Reading

namespace Stencil
namespace Regex

/-!
What reading does to the assembly, and what it never takes back.  All that
reading does is a run of a few changes, so whatever each of them keeps is kept
by reading.

Groups are counted up and their names, widths and conditions are only added
to, so what holds of the groups at the end bounds what held of them before.
In particular an expression without groups has been without them all along: it
is plain at every place in it.
-/

/-- One change that reading makes to what has been assembled.  Every token
comes to some of these, and no other way of changing it is used. -/
inductive Assembly.Changes : Assembly -> Assembly -> Prop where
  | push (assembly : Assembly) (item : Expr) : Changes assembly (assembly.push item)
  | repeatLast (assembly : Assembly) (mode : RepeatMode) (low : Nat) (high : Option Nat) :
      Changes assembly (assembly.repeatLast mode low high)
  | openGroup (assembly : Assembly) {kind : GroupKind} (start : Nat) (verbose : Bool)
      (capturesNot : forall group, kind ≠ .capture group) :
      Changes assembly (assembly.openGroup kind start verbose)
  | openCapture {assembly opened : Assembly} {name : Option String} {start : Nat}
      (done : assembly.openCapture name start = .ok opened) : Changes assembly opened
  | openLook (assembly : Assembly) (behind negated : Bool) (start : Nat) :
      Changes assembly (assembly.openLook behind negated start)
  | noteCondition (assembly : Assembly) {group : Nat} (position : Nat) (counted : 0 < group) :
      Changes assembly (assembly.noteCondition group position)
  | nextBranch (assembly : Assembly) : Changes assembly assembly.nextBranch
  | close (assembly : Assembly) : Changes assembly assembly.close
  | setFlags (assembly : Assembly) (added : Flags) : Changes assembly (assembly.setFlags added)

/-- Changes lead from one assembly to the other, in any number.  What one
change keeps is kept by reading. -/
def Assembly.Becomes : Assembly -> Assembly -> Prop :=
  Relation.ReflTransGen Changes

/-- Nothing that one assembly has noted about groups is missing from the
other. -/
structure Assembly.Grows (earlier later : Assembly) : Prop where
  groupCount : earlier.groupCount ≤ later.groupCount
  names : earlier.names <:+ later.names
  widths : earlier.widths <:+ later.widths
  conditions : earlier.conditions <:+ later.conditions

/-- Both assemblies have noted the same about flags and groups.  Frames and
items may differ. -/
structure Assembly.SameNotes (first second : Assembly) : Prop where
  flags : first.flags = second.flags
  groupCount : first.groupCount = second.groupCount
  names : first.names = second.names
  widths : first.widths = second.widths
  conditions : first.conditions = second.conditions

/-- Nothing has been noted about groups: none has been opened that captures,
and no condition has named one. -/
structure Assembly.IsPlain (assembly : Assembly) : Prop where
  groupCount : assembly.groupCount = 0
  names : assembly.names = []
  widths : assembly.widths = []
  conditions : assembly.conditions = []

namespace Assembly

variable {first second third : Assembly}

theorem isPlain_initial : initial.IsPlain := ⟨rfl, rfl, rfl, rfl⟩

namespace Grows

theorem refl (assembly : Assembly) : assembly.Grows assembly :=
  ⟨Nat.le_refl _, List.suffix_refl _, List.suffix_refl _, List.suffix_refl _⟩

theorem trans (before : first.Grows second) (after : second.Grows third) : first.Grows third :=
  ⟨Nat.le_trans before.groupCount after.groupCount, before.names.trans after.names,
    before.widths.trans after.widths, before.conditions.trans after.conditions⟩

theorem isPlain (grows : first.Grows second) (plain : second.IsPlain) : first.IsPlain where
  groupCount := Nat.le_zero.mp (plain.groupCount ▸ grows.groupCount)
  names := List.suffix_nil.mp (plain.names ▸ grows.names)
  widths := List.suffix_nil.mp (plain.widths ▸ grows.widths)
  conditions := List.suffix_nil.mp (plain.conditions ▸ grows.conditions)

end Grows

namespace SameNotes

theorem refl (assembly : Assembly) : assembly.SameNotes assembly := ⟨rfl, rfl, rfl, rfl, rfl⟩

theorem trans (before : first.SameNotes second) (after : second.SameNotes third) :
    first.SameNotes third :=
  ⟨before.flags.trans after.flags, before.groupCount.trans after.groupCount,
    before.names.trans after.names, before.widths.trans after.widths,
    before.conditions.trans after.conditions⟩

theorem grows (same : first.SameNotes second) : first.Grows second :=
  ⟨Nat.le_of_eq same.groupCount, same.names ▸ List.suffix_refl _, same.widths ▸ List.suffix_refl _,
    same.conditions ▸ List.suffix_refl _⟩

theorem isPlain (same : first.SameNotes second) (plain : first.IsPlain) : second.IsPlain :=
  ⟨same.groupCount ▸ plain.groupCount, same.names ▸ plain.names, same.widths ▸ plain.widths,
    same.conditions ▸ plain.conditions⟩

end SameNotes

theorem sameNotes_push (assembly : Assembly) (item : Expr) :
    assembly.SameNotes (assembly.push item) :=
  ⟨rfl, rfl, rfl, rfl, rfl⟩

theorem sameNotes_pushCharacters (assembly : Assembly) (characters : List Char) :
    assembly.SameNotes (assembly.pushCharacters characters) := by
  unfold pushCharacters
  induction characters generalizing assembly with
  | nil => exact .refl assembly
  | cons character rest inductiveHypothesis =>
      exact (assembly.sameNotes_push _).trans (inductiveHypothesis _)

theorem sameNotes_repeatLast (assembly : Assembly) (mode : RepeatMode) (low : Nat)
    (high : Option Nat) : assembly.SameNotes (assembly.repeatLast mode low high) := by
  unfold repeatLast
  split <;> exact ⟨rfl, rfl, rfl, rfl, rfl⟩

theorem sameNotes_openGroup (assembly : Assembly) (kind : GroupKind) (start : Nat)
    (verbose : Bool) : assembly.SameNotes (assembly.openGroup kind start verbose) :=
  ⟨rfl, rfl, rfl, rfl, rfl⟩

theorem sameNotes_openLook (assembly : Assembly) (behind negated : Bool) (start : Nat) :
    assembly.SameNotes (assembly.openLook behind negated start) := by
  unfold openLook
  dsimp only
  split <;> exact ⟨rfl, rfl, rfl, rfl, rfl⟩

theorem sameNotes_nextBranch (assembly : Assembly) : assembly.SameNotes assembly.nextBranch :=
  ⟨rfl, rfl, rfl, rfl, rfl⟩

/-- Closing a group notes its width if it captures, and nothing otherwise. -/
theorem sameNotes_close (assembly : Assembly)
    (capturesNot : forall group, assembly.frame.kind ≠ .capture group) :
    assembly.SameNotes assembly.close := by
  unfold close
  split
  · exact .refl assembly
  · dsimp only
    split
    · rename_i group same
      exact absurd same (capturesNot group)
    · exact ⟨rfl, rfl, rfl, rfl, rfl⟩
    · exact ⟨rfl, rfl, rfl, rfl, rfl⟩

theorem flags_close (assembly : Assembly) : assembly.close.flags = assembly.flags := by
  unfold close
  split
  · rfl
  · dsimp only
    split <;> rfl

theorem close_of_outer_eq_cons {assembly : Assembly} {enclosing : Frame} {outer : List Frame}
    (around : assembly.outer = enclosing :: outer) :
    assembly.close.outer = outer ∧ assembly.close.frame =
      { enclosing with pieces := closedPiece assembly.frame :: enclosing.pieces } := by
  unfold close
  rw [around]
  exact ⟨rfl, rfl⟩

theorem notes_close (assembly : Assembly) :
    assembly.close.groupCount = assembly.groupCount ∧ assembly.close.names = assembly.names ∧
      assembly.close.conditions = assembly.conditions := by
  unfold close
  split
  · exact ⟨rfl, rfl, rfl⟩
  · dsimp only
    split <;> exact ⟨rfl, rfl, rfl⟩

theorem grows_close (assembly : Assembly) : assembly.Grows assembly.close := by
  unfold close
  split
  · exact .refl assembly
  · dsimp only
    split
    · exact ⟨Nat.le_refl _, List.suffix_refl _, List.suffix_cons _ _, List.suffix_refl _⟩
    · exact ⟨Nat.le_refl _, List.suffix_refl _, List.suffix_refl _, List.suffix_refl _⟩
    · exact ⟨Nat.le_refl _, List.suffix_refl _, List.suffix_refl _, List.suffix_refl _⟩

theorem grows_setFlags (assembly : Assembly) (added : Flags) :
    assembly.Grows (assembly.setFlags added) :=
  ⟨Nat.le_refl _, List.suffix_refl _, List.suffix_refl _, List.suffix_refl _⟩

/-- A group that captures is counted and, if it has a name, named.  Nothing
else is noted. -/
theorem openCapture_eq_ok {assembly opened : Assembly} {name : Option String} {start : Nat}
    (done : assembly.openCapture name start = .ok opened) :
    opened = { assembly with
      groupCount := assembly.groupCount + 1
      names := (name.map fun name => (name, assembly.groupCount + 1)).toList ++ assembly.names
      frame := .begin (.capture (assembly.groupCount + 1)) start assembly.frame.verbose
      outer := assembly.frame :: assembly.outer } := by
  unfold openCapture at done
  dsimp only at done
  split at done
  · cases done
    rfl
  · split at done
    · cases done
    · cases done
      rfl

theorem grows_openCapture {assembly opened : Assembly} {name : Option String} {start : Nat}
    (done : assembly.openCapture name start = .ok opened) :
    assembly.Grows opened ∧ opened.groupCount = assembly.groupCount + 1 := by
  rcases openCapture_eq_ok done with rfl
  exact ⟨⟨Nat.le_succ _, List.suffix_append _ _, List.suffix_refl _, List.suffix_refl _⟩, rfl⟩

theorem becomes_refer {assembly referring : Assembly} {group start stop : Nat}
    (done : assembly.refer group start stop = .ok referring) : assembly.Becomes referring := by
  unfold refer at done
  split at done
  · cases done
  · cases done
  · cases done
    exact .single (.push _ _)

theorem refer_ne_ok (plain : first.IsPlain) (group start stop : Nat) :
    first.refer group start stop ≠ .ok second := by
  simp [refer, plain.widths]

theorem grows_noteCondition (assembly : Assembly) (group position : Nat) :
    assembly.Grows (assembly.noteCondition group position) := by
  unfold noteCondition
  split
  · exact .refl assembly
  · exact ⟨Nat.le_refl _, List.suffix_refl _, List.suffix_refl _, List.suffix_cons _ _⟩

/-- A condition that names a group by its number leaves its note, and no note
is ever taken back. -/
theorem conditions_noteCondition_ne_nil (assembly : Assembly) (group position : Nat) :
    (assembly.noteCondition group position).conditions ≠ [] := by
  unfold noteCondition
  split
  · rename_i found
    intro empty
    rw [empty] at found
    cases found
  · exact List.cons_ne_nil _ _

theorem becomes_pushCharacters (assembly : Assembly) (characters : List Char) :
    assembly.Becomes (assembly.pushCharacters characters) := by
  unfold pushCharacters
  induction characters generalizing assembly with
  | nil => exact .refl
  | cons character rest inductiveHypothesis =>
      exact .head (.push _ _) (inductiveHypothesis _)

theorem Changes.grows (changes : first.Changes second) : first.Grows second := by
  cases changes with
  | push item => exact (sameNotes_push _ _).grows
  | repeatLast mode low high => exact (sameNotes_repeatLast _ _ _ _).grows
  | openGroup start verbose _ => exact (sameNotes_openGroup _ _ _ _).grows
  | openCapture done => exact (grows_openCapture done).1
  | openLook behind negated start => exact (sameNotes_openLook _ _ _ _).grows
  | noteCondition position _ => exact grows_noteCondition _ _ _
  | nextBranch => exact (sameNotes_nextBranch _).grows
  | close => exact grows_close _
  | setFlags added => exact grows_setFlags _ _

theorem Becomes.grows (becomes : first.Becomes second) : first.Grows second := by
  induction becomes with
  | refl => exact .refl _
  | tail _ last inductiveHypothesis => exact inductiveHypothesis.trans last.grows

/-- What is plain in the end has been plain before, all the way back to the
beginning. -/
theorem Becomes.isPlain (becomes : first.Becomes second) (plain : second.IsPlain) :
    first.IsPlain :=
  becomes.grows.isPlain plain

end Assembly

namespace Reading

variable {reading later : Reading}

theorem becomes_takeMeaning {meaning : Escape.Meaning} {start : Nat}
    (done : reading.takeMeaning meaning start = .ok later) :
    reading.assembly.Becomes later.assembly := by
  unfold takeMeaning at done
  split at done
  · cases done
    exact .single (.push _ _)
  · cases done
    exact .single (.push _ _)
  · cases done
    exact .single (.push _ _)
  · split at done
    · cases done
    · obtain ⟨referring, referred, rfl⟩ := Except.map_eq_ok_iff.mp done
      exact Assembly.becomes_refer referred

theorem assembly_takeSetItem {set : SetReading} {place : SetReading.Place} {item : Member}
    {token : Token} (done : reading.takeSetItem set place item token = .ok later) :
    later.assembly = reading.assembly := by
  obtain ⟨_, _, rest⟩ := Except.bind_eq_ok_iff.mp done
  cases rest
  rfl

theorem becomes_takeEscape {place : EscapePlace} {start : Nat} {token : Token}
    {meaning : Escape.Meaning} (done : reading.takeEscape place start token meaning = .ok later) :
    reading.assembly.Becomes later.assembly := by
  unfold takeEscape at done
  split at done
  · exact becomes_takeMeaning done
  · split at done
    · exact assembly_takeSetItem done ▸ .refl
    · cases done

theorem becomes_beginEscape {place : EscapePlace} {start : Nat} {token : Token}
    (done : reading.beginEscape place start token = .ok later) :
    reading.assembly.Becomes later.assembly := by
  unfold beginEscape at done
  split at done
  · exact becomes_takeEscape done
  · cases done
    exact .refl
  · cases done

theorem becomes_beginQuantifier {counts : Counts} {start : Nat}
    (done : reading.beginQuantifier counts start = .ok later) :
    reading.assembly.Becomes later.assembly := by
  unfold beginQuantifier at done
  split at done
  · cases done
  · cases done
    exact .refl

/-- The name of a condition either stands for a group that has that name, or
it is a number and is noted. -/
theorem conditionGroup_eq_ok {assembly noting : Assembly} {name : Name} {group : Nat}
    (done : conditionGroup assembly name = .ok (group, noting)) :
    (assembly.names.lookup name.text = some group ∧ noting = assembly) ∨
      (0 < group ∧ noting = assembly.noteCondition group name.position) := by
  unfold conditionGroup at done
  dsimp only at done
  split at done
  · split at done
    · rename_i named
      cases done
      exact .inl ⟨named, rfl⟩
    · cases done
  · split at done
    · cases done
    · split at done
      · cases done
      · split at done
        · cases done
        · rename_i notZero
          split at done
          · cases done
          · cases done
            exact .inr ⟨Nat.pos_of_ne_zero notZero, rfl⟩

theorem takeOpened_conditional_eq_ok {start : Nat} {name : Name}
    (done : reading.takeOpened start (.conditional name) = .ok later) :
    ∃ group noting, conditionGroup reading.assembly name = .ok (group, noting) ∧
      later = reading.withItem
        (noting.openGroup (.conditional group) start reading.assembly.frame.verbose) := by
  obtain ⟨⟨group, noting⟩, named, rest⟩ := Except.bind_eq_ok_iff.mp done
  dsimp only at rest
  split at rest
  · cases rest
  · cases rest
    exact ⟨group, noting, named, rfl⟩

theorem becomes_takeOpened {start : Nat} {opened : Opened}
    (done : reading.takeOpened start opened = .ok later) :
    reading.assembly.Becomes later.assembly := by
  cases opened with
  | capture name =>
      simp only [takeOpened] at done
      split at done
      · rename_i opening
        cases done
        exact .single (.openCapture opening)
      · cases done
  | plain =>
      cases done
      exact .single (.openGroup _ _ _ nofun)
  | flagged change =>
      cases done
      exact .single (.openGroup _ _ _ nofun)
  | atomic =>
      cases done
      exact .single (.openGroup _ _ _ nofun)
  | look behind negated =>
      cases done
      exact .single (.openLook _ _ _ _)
  | conditional name =>
      obtain ⟨group, noting, named, rfl⟩ := takeOpened_conditional_eq_ok done
      refine .tail ?_ (.openGroup _ _ _ nofun)
      rcases conditionGroup_eq_ok named with ⟨_, rfl⟩ | ⟨counted, rfl⟩
      · exact .refl
      · exact .single (.noteCondition _ _ counted)
  | comment =>
      cases done
      exact .refl
  | flags added =>
      simp only [takeOpened] at done
      split at done
      · cases done
        exact .single (.setFlags _ _)
      · cases done
  | reference name =>
      simp only [takeOpened] at done
      split at done
      · cases done
      · obtain ⟨referring, referred, rfl⟩ := Except.map_eq_ok_iff.mp done
        exact Assembly.becomes_refer referred

theorem becomes_complete {next : Option Token} (done : reading.complete next = .ok later) :
    reading.assembly.Becomes later.assembly := by
  unfold complete at done
  split at done
  · split at done
    · cases done
      exact .refl
    · obtain ⟨_, _, rest⟩ := Except.bind_eq_ok_iff.mp done
      exact becomes_takeEscape rest
  · split at done
    · cases done
      exact .refl
    · cases done
      exact Assembly.becomes_pushCharacters _ _
  · split at done
    · cases done
      exact .refl
    · cases done
      exact .single (.repeatLast _ _ _ _)
  · split at done
    · cases done
      exact .refl
    · exact becomes_takeOpened done
  · cases done
    exact .refl

/-- The reading settles by completing what ends, provided that nothing forbids
what comes next. -/
theorem settle_eq_ok_iff {next : Option Token} :
    reading.settle next = .ok later ↔
      reading.complete next = .ok later ∧ later.refusal? next = none := by
  unfold settle
  rw [Except.bind_eq_ok_iff]
  constructor
  · rintro ⟨completed, done, rest⟩
    split at rest
    · cases rest
    · rename_i allowed
      cases rest
      exact ⟨done, allowed⟩
  · rintro ⟨done, allowed⟩
    refine ⟨later, done, ?_⟩
    rw [allowed]
    rfl

theorem becomes_takeInExpression {start : Nat} {token : Token}
    (done : reading.takeInExpression start token = .ok later) :
    reading.assembly.Becomes later.assembly := by
  unfold takeInExpression at done
  dsimp only at done
  split at done
  · cases done
    exact .single (.nextBranch _)
  split at done
  · cases done
    exact .single (.close _)
  split at done
  · cases done
    exact .refl
  split at done
  · cases done
    exact .refl
  split at done
  · exact becomes_beginEscape done
  split at done
  · cases done
    exact .refl
  · cases done
    exact .refl
  · exact becomes_beginQuantifier done
  · exact becomes_beginQuantifier done
  · exact becomes_beginQuantifier done
  · cases done
    exact .refl
  · cases done
    exact .single (.push _ _)
  · cases done
    exact .single (.push _ _)
  · cases done
    exact .single (.push _ _)
  · cases done
    exact .single (.push _ _)

theorem becomes_beginSetItem {set : SetReading} {place : SetReading.Place} {start : Nat}
    {token : Token} (done : reading.beginSetItem set place start token = .ok later) :
    reading.assembly.Becomes later.assembly := by
  unfold beginSetItem at done
  split at done
  · exact becomes_beginEscape done
  · exact assembly_takeSetItem done ▸ .refl

theorem becomes_takeInSet {set : SetReading} {place : SetReading.Place} {start : Nat}
    {token : Token} (done : reading.takeInSet set place start token = .ok later) :
    reading.assembly.Becomes later.assembly := by
  unfold takeInSet at done
  dsimp only at done
  split at done
  · split at done
    · cases done
      exact .refl
    · exact becomes_beginSetItem done
  · split at done
    · cases done
      exact .single (.push _ _)
    · exact becomes_beginSetItem done
  · split at done
    · cases done
      exact .refl
    · split at done
      · cases done
        exact .single (.push _ _)
      · exact becomes_beginSetItem done
  · split at done
    · cases done
      exact .single (.push _ _)
    · exact becomes_beginSetItem done

theorem becomes_takeSettled {token : Token} (done : reading.takeSettled token = .ok later) :
    reading.assembly.Becomes later.assembly := by
  unfold takeSettled at done
  dsimp only at done
  split at done
  · have grown := becomes_takeInExpression done
    exact grown
  · cases done
    split <;> exact .refl
  · cases done
    split <;> exact .refl
  · cases done
    exact .refl
  · have grown := becomes_takeInSet done
    exact grown
  · split at done
    · obtain ⟨_, _, rest⟩ := Except.bind_eq_ok_iff.mp done
      have grown := becomes_beginQuantifier rest
      exact grown
    · cases done
      exact .refl
  · cases done
    exact .single (.repeatLast _ _ _ _)
  · obtain ⟨outcome, _, rest⟩ := Except.bind_eq_ok_iff.mp done
    cases outcome with
    | inl opening =>
        cases rest
        exact .refl
    | inr opened =>
        have grown := becomes_takeOpened rest
        exact grown

theorem take_eq_ok_iff {token : Token} :
    reading.take token = .ok later ↔
      ∃ settled, reading.settle (some token) = .ok settled ∧ settled.takeSettled token = .ok later :=
  Except.bind_eq_ok_iff

theorem becomes_take {token : Token} (done : reading.take token = .ok later) :
    reading.assembly.Becomes later.assembly := by
  obtain ⟨settled, settling, rest⟩ := take_eq_ok_iff.mp done
  exact (becomes_complete (settle_eq_ok_iff.mp settling).1).trans (becomes_takeSettled rest)

theorem takeAll_cons_eq_ok_iff {token : Token} {rest : List Token} :
    reading.takeAll (token :: rest) = .ok later ↔
      ∃ middle, reading.take token = .ok middle ∧ middle.takeAll rest = .ok later := by
  unfold takeAll
  rw [List.foldlM_cons, Except.bind_eq_ok_iff]

theorem takeAll_cons_of_ok {token : Token} (done : reading.take token = .ok later)
    (rest : List Token) : reading.takeAll (token :: rest) = later.takeAll rest := by
  rw [takeAll, List.foldlM_cons, done]
  rfl

theorem takeAll_cons_of_error {token : Token} {fault : Fault}
    (refused : reading.take token = .error fault) (rest : List Token) :
    reading.takeAll (token :: rest) = .error fault := by
  rw [takeAll, List.foldlM_cons, refused]
  rfl

theorem takeAll_append_eq_ok_iff {front back : List Token} :
    reading.takeAll (front ++ back) = .ok later ↔
      ∃ middle, reading.takeAll front = .ok middle ∧ middle.takeAll back = .ok later := by
  rw [takeAll_append, Except.bind_eq_ok_iff]

theorem becomes_takeAll {tokens : List Token} (done : reading.takeAll tokens = .ok later) :
    reading.assembly.Becomes later.assembly := by
  induction tokens generalizing reading with
  | nil =>
      cases done
      exact .refl
  | cons token rest inductiveHypothesis =>
      obtain ⟨middle, first, others⟩ := takeAll_cons_eq_ok_iff.mp done
      exact (becomes_take first).trans (inductiveHypothesis others)

end Reading
end Regex
end Stencil

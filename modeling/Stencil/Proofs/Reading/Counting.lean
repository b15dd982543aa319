import Stencil.Proofs.Reading.Ending

namespace Stencil
namespace Regex

/-!
Counting groups.  Names, widths and frames that capture all belong to groups
that have been counted, and conditions name groups by positive numbers, which
the end of the expression compares with the count.  So an expression with no
group counted is plain when it ends: it has no names, no widths and no
conditions either.
-/

/-- What is noted about groups belongs to groups that have been counted.  So
an expression without groups has no notes about any. -/
structure Assembly.IsCounted (assembly : Assembly) : Prop where
  names : assembly.groupCount = 0 -> assembly.names = []
  widths : assembly.groupCount = 0 -> assembly.widths = []
  frames : assembly.groupCount = 0 -> forall frame, frame ∈ assembly.frame :: assembly.outer ->
    forall group, frame.kind ≠ .capture group
  conditions : forall condition, condition ∈ assembly.conditions -> 0 < condition.1

namespace Assembly

variable {first second : Assembly}

theorem isCounted_initial : initial.IsCounted where
  names := fun _ => rfl
  widths := fun _ => rfl
  frames := by
    intro _ frame member
    cases List.mem_singleton.mp member
    exact nofun
  conditions := nofun

/-- A change of the innermost frame that keeps its kind, and notes nothing,
keeps the notes counted. -/
theorem IsCounted.changeFrame (counted : first.IsCounted) (notes : first.SameNotes second)
    (kind : second.frame.kind = first.frame.kind) (outer : second.outer = first.outer) :
    second.IsCounted where
  names := fun uncounted => notes.names ▸ counted.names (notes.groupCount ▸ uncounted)
  widths := fun uncounted => notes.widths ▸ counted.widths (notes.groupCount ▸ uncounted)
  frames := by
    intro uncounted frame member
    rw [outer] at member
    rcases List.mem_cons.mp member with rfl | around
    · exact kind ▸ counted.frames (notes.groupCount ▸ uncounted) _ List.mem_cons_self
    · exact counted.frames (notes.groupCount ▸ uncounted) frame (List.mem_cons_of_mem _ around)
  conditions := notes.conditions ▸ counted.conditions

theorem IsCounted.enter (counted : first.IsCounted) (notes : first.SameNotes second)
    (capturesNot : forall group, second.frame.kind ≠ .capture group)
    (outer : second.outer = first.frame :: first.outer) : second.IsCounted where
  names := fun uncounted => notes.names ▸ counted.names (notes.groupCount ▸ uncounted)
  widths := fun uncounted => notes.widths ▸ counted.widths (notes.groupCount ▸ uncounted)
  frames := by
    intro uncounted frame member
    rcases List.mem_cons.mp member with rfl | around
    · exact capturesNot
    · rw [outer] at around
      exact counted.frames (notes.groupCount ▸ uncounted) frame around
  conditions := notes.conditions ▸ counted.conditions

/-- The width of a group is noted when it is closed, and then it has been
counted. -/
theorem widths_close (counted : first.IsCounted) (uncounted : first.groupCount = 0) :
    first.close.widths = [] := by
  unfold Assembly.close
  split
  · exact counted.widths uncounted
  · dsimp only
    split
    · rename_i group same
      exact absurd same (counted.frames uncounted _ List.mem_cons_self group)
    · exact counted.widths uncounted
    · exact counted.widths uncounted

theorem IsCounted.close (counted : first.IsCounted) : first.close.IsCounted := by
  cases around : first.outer with
  | nil =>
      have same : first.close = first := by
        unfold Assembly.close
        rw [around]
      rw [same]
      exact counted
  | cons enclosing outer =>
      obtain ⟨groupCount, names, conditions⟩ := first.notes_close
      obtain ⟨closedOuter, closedFrame⟩ := close_of_outer_eq_cons around
      refine ⟨?_, ?_, ?_, ?_⟩
      · rw [groupCount, names]
        exact counted.names
      · rw [groupCount]
        exact widths_close counted
      · rw [groupCount, closedOuter, closedFrame]
        intro uncounted frame member
        have frames := counted.frames uncounted
        rw [around] at frames
        rcases List.mem_cons.mp member with rfl | further
        · exact frames enclosing (List.mem_cons_of_mem _ List.mem_cons_self)
        · exact frames frame (List.mem_cons_of_mem _ (List.mem_cons_of_mem _ further))
      · rw [conditions]
        exact counted.conditions

theorem IsCounted.noteCondition {group : Nat} (counted : first.IsCounted) (position : Nat)
    (positive : 0 < group) : (first.noteCondition group position).IsCounted := by
  unfold Assembly.noteCondition
  split
  · exact counted
  · exact ⟨counted.names, counted.widths, counted.frames,
      List.forall_mem_cons.mpr ⟨positive, counted.conditions⟩⟩

theorem IsCounted.openCapture {opened : Assembly} {name : Option String} {start : Nat}
    (counted : first.IsCounted) (done : first.openCapture name start = .ok opened) :
    opened.IsCounted := by
  obtain ⟨_, increased⟩ := grows_openCapture done
  have counts : opened.groupCount ≠ 0 := by omega
  refine ⟨fun uncounted => absurd uncounted counts, fun uncounted => absurd uncounted counts,
    fun uncounted => absurd uncounted counts, ?_⟩
  rcases openCapture_eq_ok done with rfl
  exact counted.conditions

/-- Every change keeps what is noted counted. -/
theorem Changes.isCounted (changes : first.Changes second) (counted : first.IsCounted) :
    second.IsCounted := by
  cases changes with
  | push item => exact counted.changeFrame (sameNotes_push _ _) rfl rfl
  | repeatLast mode low high =>
      have kept : (first.repeatLast mode low high).frame.kind = first.frame.kind ∧
          (first.repeatLast mode low high).outer = first.outer := by
        unfold Assembly.repeatLast
        split <;> exact ⟨rfl, rfl⟩
      exact counted.changeFrame (sameNotes_repeatLast _ _ _ _) kept.1 kept.2
  | openGroup start verbose capturesNot =>
      exact counted.enter (sameNotes_openGroup _ _ _ _) capturesNot rfl
  | openCapture done => exact counted.openCapture done
  | openLook behind negated start =>
      have entered : (first.openLook behind negated start).frame.kind =
            .look behind negated first.lookBehindLimit ∧
          (first.openLook behind negated start).outer = first.frame :: first.outer := by
        unfold Assembly.openLook
        dsimp only
        split <;> exact ⟨rfl, rfl⟩
      exact counted.enter (sameNotes_openLook _ _ _ _) (entered.1 ▸ nofun) entered.2
  | noteCondition position positive => exact counted.noteCondition position positive
  | nextBranch => exact counted.changeFrame (sameNotes_nextBranch _) rfl rfl
  | close => exact counted.close
  | setFlags added =>
      refine ⟨counted.names, counted.widths, fun uncounted frame member => ?_, counted.conditions⟩
      rcases List.mem_cons.mp member with rfl | around
      · exact counted.frames uncounted first.frame List.mem_cons_self
      · exact counted.frames uncounted frame (List.mem_cons_of_mem _ around)

theorem Becomes.isCounted (becomes : first.Becomes second) (counted : first.IsCounted) :
    second.IsCounted := by
  induction becomes with
  | refl => exact counted
  | tail _ last inductiveHypothesis => exact last.isCounted inductiveHypothesis

/-- At the end every condition names a group that has been counted; without
groups there is none to name. -/
theorem conditions_of_endFault? (counted : first.IsCounted) (uncounted : first.groupCount = 0)
    (noFault : first.endFault? = .none) : first.conditions = [] := by
  unfold endFault? at noFault
  split at noFault
  · cases noFault
  split at noFault
  · cases noFault
  rw [Option.map_eq_none_iff, List.find?_eq_none] at noFault
  refine List.eq_nil_iff_forall_not_mem.mpr fun condition member => ?_
  have late := noFault condition (List.mem_reverse.mpr member)
  have positive := counted.conditions condition member
  rw [decide_eq_true_eq, uncounted] at late
  exact late positive

end Assembly

namespace Reading

/-- Reading becomes what it gives in the end.  Ending takes no step that a
token could not. -/
theorem becomes_finish {reading : Reading} {assembly : Assembly}
    (done : reading.finish = .ok assembly) : reading.assembly.Becomes assembly := by
  obtain ⟨completed, completing, _, rfl⟩ := finish_eq_ok_iff.mp done
  exact becomes_complete completing

/-- An expression that captures nothing has no names and no conditions
either. -/
theorem isPlain_of_groupCount {tokens : List Token} {assembly : Assembly}
    (done : (initial.takeAll tokens >>= finish) = .ok assembly) (uncounted : assembly.groupCount = 0) :
    assembly.IsPlain := by
  obtain ⟨reading, taken, ended⟩ := Except.bind_eq_ok_iff.mp done
  have counted := (becomes_finish ended).isCounted
    ((becomes_takeAll taken).isCounted Assembly.isCounted_initial)
  obtain ⟨completed, completing, noFault, rfl⟩ := finish_eq_ok_iff.mp ended
  obtain ⟨_, assemblyEnds⟩ := mode_of_endFault? completing noFault
  exact ⟨uncounted, counted.names uncounted, counted.widths uncounted,
    Assembly.conditions_of_endFault? counted uncounted assemblyEnds⟩

end Reading
end Regex
end Stencil

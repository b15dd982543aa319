import Stencil.Proofs.Pattern.Searching
import Stencil.Transform

namespace Stencil

/-!
Replacing and the rest of the text.  The matches of a pattern lie one behind
the other, so they leave gaps: before the first, between every two that follow
one another, and behind the last.  A text is its gaps with the matched parts
between them, and what replacing makes of it is the same gaps with the
rewrites between them.  If a match is rewritten to what was matched, as it is
by a transform from a template to the same template, then nothing changes.

The main statements are `Transform.replaces_of_mapM` and
`Transform.replace_eq_self`.
-/

open Regex (segment)

/-- The spans follow one another in a text of this length, from the position
on.  Two of them may touch, and a span may be empty. -/
inductive InOrder (length : Nat) : (position : Nat) -> List (Nat × Nat) -> Prop where
  | nil {position : Nat} (inside : position ≤ length) : InOrder length position []
  | cons {position : Nat} {span : Nat × Nat} {rest : List (Nat × Nat)} (ahead : position ≤ span.1)
      (forward : span.1 ≤ span.2) (later : InOrder length span.2 rest) :
      InOrder length position (span :: rest)

/-- Where the gaps are that the spans leave in a text of this length, from the
position on. -/
def gaps (length : Nat) : (position : Nat) -> List (Nat × Nat) -> List (Nat × Nat)
  | position, [] => [(position, length)]
  | position, span :: rest => (position, span.1) :: gaps length span.2 rest

/-- The parts in turn, beginning with the first of the first list.  Whatever
is left of the longer list comes last. -/
def interleave {Item : Type} : List (List Item) -> List (List Item) -> List Item
  | [], others => others.flatten
  | part :: rest, [] => part ++ rest.flatten
  | part :: rest, other :: others => part ++ other ++ interleave rest others

def positionsIn (span : Nat × Nat) : List Nat :=
  List.range' span.1 (span.2 - span.1)

/-- The position is in none of the spans. -/
def IsOutside (spans : List (Nat × Nat)) (position : Nat) : Prop :=
  forall span, span ∈ spans -> position < span.1 ∨ span.2 ≤ position

instance (spans : List (Nat × Nat)) : DecidablePred (IsOutside spans) :=
  fun position => inferInstanceAs (Decidable (forall span, span ∈ spans ->
    position < span.1 ∨ span.2 ≤ position))

/-! ## Gaps -/

namespace InOrder

variable {length position : Nat} {spans : List (Nat × Nat)}

theorem inside (order : InOrder length position spans) : position ≤ length := by
  induction order with
  | nil inside => exact inside
  | cons ahead forward _ inductiveHypothesis =>
      exact Nat.le_trans ahead (Nat.le_trans forward inductiveHypothesis)

/-- The spans of a sweep follow one another, which is all that is needed of
them here. -/
theorem of_sweeps {regex : Regex} {text : Array Char} {nonEmpty : Bool}
    (sweeps : regex.Sweeps text position nonEmpty spans) (inside : position ≤ text.size) :
    InOrder text.size position spans := by
  induction sweeps with
  | done => exact .nil inside
  | found ahead within _ here _ inductiveHypothesis =>
      rcases Regex.Sweeps.forward_of_attempt? within here with ⟨forward, limit, _⟩
      exact .cons ahead forward (inductiveHypothesis limit)

theorem before (order : InOrder length position spans) {span : Nat × Nat} (member : span ∈ spans) :
    position ≤ span.1 := by
  induction order with
  | nil _ => cases member
  | cons ahead forward _ inductiveHypothesis =>
      rcases List.mem_cons.mp member with rfl | among
      · exact ahead
      · exact Nat.le_trans ahead (Nat.le_trans forward (inductiveHypothesis among))

/-- Every gap lies in the text, at the position or later. -/
theorem forward_of_mem_gaps (order : InOrder length position spans) {gap : Nat × Nat}
    (member : gap ∈ gaps length position spans) :
    position ≤ gap.1 ∧ gap.1 ≤ gap.2 ∧ gap.2 ≤ length := by
  induction order with
  | nil inside =>
      rcases List.mem_singleton.mp member with rfl
      exact ⟨Nat.le_refl _, inside, Nat.le_refl _⟩
  | cons ahead forward later inductiveHypothesis =>
      have limit := later.inside
      rcases List.mem_cons.mp member with rfl | among
      · exact ⟨Nat.le_refl _, ahead, Nat.le_trans forward limit⟩
      · have further := inductiveHypothesis among
        exact ⟨by omega, further.2⟩

theorem pairwise_gaps (order : InOrder length position spans) :
    (gaps length position spans).Pairwise fun gap other => gap.2 ≤ other.1 := by
  induction order with
  | nil _ => exact List.pairwise_singleton _ _
  | cons _ forward later inductiveHypothesis =>
      apply List.Pairwise.cons
      · intro other member
        exact Nat.le_trans forward (later.forward_of_mem_gaps member).1
      · exact inductiveHypothesis

/-- The gaps with what the spans stand for between them are the text, from the
position on. -/
theorem interleave_gaps {text : Array Char} (order : InOrder text.size position spans) :
    interleave ((gaps text.size position spans).map (Matcher.spanned text))
        (spans.map (Matcher.spanned text)) =
      segment text position text.size := by
  induction order with
  | nil _ => exact List.append_nil _
  | @cons position span rest ahead forward later inductiveHypothesis =>
      rw [gaps, List.map_cons, List.map_cons, interleave, inductiveHypothesis]
      calc
        segment text position span.1 ++ segment text span.1 span.2 ++ segment text span.2 text.size
        _ = segment text position span.2 ++ segment text span.2 text.size := by
          rw [Regex.segment_append ahead forward]
        _ = segment text position text.size :=
          Regex.segment_append (Nat.le_trans ahead forward) later.inside

/-- Positions before a span are outside it and those that follow it. -/
theorem filter_isOutside_before {span : Nat × Nat} {rest : List (Nat × Nat)}
    (forward : span.1 ≤ span.2) (later : InOrder length span.2 rest) :
    (positionsIn (position, span.1)).filter (fun place => IsOutside (span :: rest) place) =
      positionsIn (position, span.1) := by
  apply List.filter_eq_self.mpr
  intro place member
  have bounds := List.mem_range'_1.mp member
  apply decide_eq_true
  intro other among
  rcases List.mem_cons.mp among with rfl | further
  · exact .inl (by omega)
  · have ahead := later.before further
    exact .inl (by omega)

theorem filter_isOutside_within {span : Nat × Nat} {rest : List (Nat × Nat)} :
    (positionsIn span).filter (fun place => IsOutside (span :: rest) place) = [] := by
  apply List.filter_eq_nil_iff.mpr
  intro place member outside
  have bounds := List.mem_range'_1.mp member
  have notHere := of_decide_eq_true outside span List.mem_cons_self
  omega

theorem filter_isOutside_behind {span : Nat × Nat} {rest : List (Nat × Nat)} :
    (positionsIn (span.2, length)).filter (fun place => IsOutside (span :: rest) place) =
      (positionsIn (span.2, length)).filter fun place => IsOutside rest place := by
  apply List.filter_congr
  intro place member
  have bounds := List.mem_range'_1.mp member
  apply decide_eq_decide.mpr
  constructor
  · exact fun outside other among => outside other (List.mem_cons_of_mem _ among)
  · intro outside other among
    rcases List.mem_cons.mp among with rfl | further
    · exact .inr bounds.1
    · exact outside other further

theorem positionsIn_append {start middle stop : Nat} (before : start ≤ middle)
    (after : middle ≤ stop) :
    positionsIn (start, middle) ++ positionsIn (middle, stop) = positionsIn (start, stop) := by
  have widths : stop - start = (middle - start) + (stop - middle) := by omega
  have behind : start + (middle - start) = middle := by omega
  simp only [positionsIn]
  rw [widths, ← List.range'_append_1, behind]

/-- The positions in the gaps are those outside the spans, each of them once
and in order. -/
theorem positionsIn_gaps (order : InOrder length position spans) :
    (gaps length position spans).flatMap positionsIn =
      (positionsIn (position, length)).filter fun place => IsOutside spans place := by
  induction order with
  | nil _ =>
      have everywhere : forall place, decide (IsOutside [] place) = true :=
        fun _ => decide_eq_true nofun
      simp [gaps, everywhere]
  | @cons position span rest ahead forward later inductiveHypothesis =>
      have whole : positionsIn (position, length) =
          positionsIn (position, span.1) ++ positionsIn span ++ positionsIn (span.2, length) := by
        have front := positionsIn_append ahead forward
        rw [front, positionsIn_append (Nat.le_trans ahead forward) later.inside]
      rw [gaps, List.flatMap_cons, inductiveHypothesis, whole, List.filter_append,
        List.filter_append, filter_isOutside_before forward later, filter_isOutside_within,
        filter_isOutside_behind, List.append_nil]

end InOrder

/-! ## Replacing -/

def Rewrite.span (rewrite : Rewrite) : Nat × Nat :=
  (rewrite.start, rewrite.stop)

def gapsOf (text : String) (rewrites : List Rewrite) : List (Nat × Nat) :=
  gaps text.toList.length 0 (rewrites.map Rewrite.span)

/-- The result is the text with the rewrites made and everything else as it
was.  The gaps between the matches are the same in both, and there is nothing
else in either but the matches and what they are rewritten to. -/
structure Replaces (text : String) (rewrites : List Rewrite) (result : String) : Prop where
  /-- The gaps are disjoint and in order. -/
  ordered : (gapsOf text rewrites).Pairwise fun gap other => gap.2 ≤ other.1
  inside : forall gap, gap ∈ gapsOf text rewrites ->
    gap.1 ≤ gap.2 ∧ gap.2 ≤ text.toList.length
  /-- Every position outside the matches is in a gap, and in one only. -/
  complete : (gapsOf text rewrites).flatMap positionsIn =
    (List.range text.toList.length).filter fun place => IsOutside (rewrites.map Rewrite.span) place
  matched : text.toList =
    interleave ((gapsOf text rewrites).map (Matcher.spanned text.toList.toArray))
      ((rewrites.map Rewrite.span).map (Matcher.spanned text.toList.toArray))
  written : result.toList =
    interleave ((gapsOf text rewrites).map (Matcher.spanned text.toList.toArray))
      (rewrites.map fun rewrite => rewrite.text.toList)

namespace Transform

variable {transform : Transform Pattern}

/-- Splicing puts the rewrites between the gaps, where the matches were. -/
theorem splice_eq_interleave (text : Array Char) (position : Nat) (rewrites : List Rewrite) :
    splice text position rewrites =
      interleave ((gaps text.size position (rewrites.map Rewrite.span)).map (Matcher.spanned text))
        (rewrites.map fun rewrite => rewrite.text.toList) := by
  induction rewrites generalizing position with
  | nil => exact (List.append_nil _).symm
  | cons rewrite rest inductiveHypothesis =>
      rw [splice, inductiveHypothesis]
      rfl

/-- The rewrites are where the matches are, and as many. -/
theorem spans_of_mapM {visits : List Matcher.Visit} {rewrites : List Rewrite}
    (made : visits.mapM transform.rewrite = .ok rewrites) :
    rewrites.map Rewrite.span = visits.map Matcher.Visit.span := by
  apply Matcher.map_of_mapM_eq_ok _ made
  intro visit rewrite done
  rcases Except.bind_eq_ok_iff.mp done with ⟨text, _, built⟩
  cases built
  rfl

theorem inOrder_of_findAll {pattern : Pattern} {text : String} {visits : List Matcher.Visit}
    (found : pattern.findAll text = .ok visits) :
    InOrder text.toList.length 0 (visits.map Matcher.Visit.span) := by
  rcases Except.bind_eq_ok_iff.mp found with ⟨matcher, _, finds⟩
  rw [Matcher.spans_of_findAll finds]
  exact .of_sweeps (Regex.sweeps_matchesFrom matcher.regex text.toList.toArray 0 false)
    (Nat.zero_le _)

/-- What replacing makes of a text is the text with the rewrites made, if they
all can be made. -/
theorem replaces_of_mapM {text : String} {visits : List Matcher.Visit} {rewrites : List Rewrite}
    (found : transform.left.findAll text = .ok visits)
    (made : visits.mapM transform.rewrite = .ok rewrites) :
    ∃ result, transform.replace text = .ok result ∧ Replaces text rewrites result := by
  have order := inOrder_of_findAll found
  rw [← spans_of_mapM made] at order
  have size : text.toList.toArray.size = text.toList.length := List.size_toArray
  refine ⟨String.ofList (splice text.toList.toArray 0 rewrites), ?_, ?_⟩
  · apply Except.bind_eq_ok_iff.mpr
    refine ⟨visits, found, Except.bind_eq_ok_iff.mpr ?_⟩
    exact ⟨rewrites, made, rfl⟩
  · constructor
    case ordered => exact order.pairwise_gaps
    case inside => exact fun gap member => (order.forward_of_mem_gaps member).2
    case complete =>
      rw [gapsOf, order.positionsIn_gaps, List.range_eq_range']
      rfl
    case matched =>
      have whole := InOrder.interleave_gaps (size ▸ order)
      rw [size] at whole
      exact (whole.trans (size ▸ Regex.segment_whole _)).symm
    case written =>
      rw [String.toList_ofList, splice_eq_interleave, size, gapsOf]

/-! ## Replacing by what was matched -/

/-- A match is rewritten to what was matched if both sides have the same
template. -/
theorem rewrite_eq_ok_of_restores (same : transform.right.template = transform.left.template)
    {text : Array Char} {visit : Matcher.Visit}
    (restores : transform.left.Restores visit.bindings (segment text visit.start visit.stop)) :
    transform.rewrite visit =
      .ok ⟨visit.start, visit.stop, String.ofList (Matcher.spanned text visit.span)⟩ := by
  have applied : transform.right.apply visit.bindings =
      .ok (String.ofList (Matcher.spanned text visit.span)) := by
    rw [Pattern.apply_eq_of_template same]
    exact restores.2
  unfold rewrite
  rw [applied]
  rfl

/-- A transform between patterns of the same template leaves every text as it
is. -/
theorem replace_eq_self (coherent : transform.left.IsCoherent) {matcher : Matcher}
    (compiles : transform.left.compile = .ok matcher)
    (same : transform.right.template = transform.left.template) (text : String) :
    transform.replace text = .ok text := by
  rcases Pattern.restores_of_findAll coherent compiles text with ⟨visits, found, each⟩
  let written (visit : Matcher.Visit) : Rewrite :=
    ⟨visit.start, visit.stop, String.ofList (Matcher.spanned text.toList.toArray visit.span)⟩
  have rewritten : forall visit, visit ∈ visits -> transform.rewrite visit = .ok (written visit) :=
    fun visit member => rewrite_eq_ok_of_restores same (each visit member).2.2
  have made := Except.mapM_eq_ok_map rewritten
  rcases replaces_of_mapM found made with ⟨result, done, replaces⟩
  have unchanged : result.toList = text.toList := by
    rw [replaces.matched, replaces.written]
    congr 1
    simp [written, Function.comp_def, Rewrite.span, Matcher.Visit.span]
  rw [done, String.toList_inj.mp unchanged]

theorem apply_eq_self (coherent : transform.left.IsCoherent) {matcher : Matcher}
    (compiles : transform.left.compile = .ok matcher)
    (same : transform.right.template = transform.left.template) {text : String}
    {bindings : List (Binding String)} (matched : transform.left.matchWhole text = .ok bindings) :
    transform.apply text = .ok text := by
  rcases Pattern.restores_of_matchWhole coherent compiles text with noMatch | ⟨found, done, restores⟩
  · cases noMatch.symm.trans matched
  · apply Except.bind_eq_ok_iff.mpr
    refine ⟨found, done, ?_⟩
    rw [Pattern.apply_eq_of_template same, restores.2, String.ofList_toList]

end Transform
end Stencil

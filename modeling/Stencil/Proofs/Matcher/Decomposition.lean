import Stencil.Proofs.Matcher.Structure
import Stencil.Proofs.Running.Segment

namespace Stencil

/-- The text of the fragments, the values standing for the placeholders in
order. -/
def Fragment.written : List Fragment -> List (List Char) -> List Char
  | [], _ => []
  | .literal text :: rest, values => text.toList ++ written rest values
  | .placeholder _ :: rest, value :: values => value ++ written rest values
  | .placeholder _ :: rest, [] => written rest []

namespace Matcher

/-!
What a matcher makes of a text.  Every run of the assembled expression cuts
the text it goes over into the literals and one segment for each placeholder
occurrence, in order and without gaps, and each group has captured the segment
of its occurrence.  So the bindings of a match name the placeholders as the
fragments do, and written between the literals their values give the text
matched.
-/

open Regex

/-- A run of the expression for the placeholder leads from one position to the
other.  What has been captured before the run is of no account, as there are
no groups in it. -/
def Spans (rules : String -> Option String) (text : Array Char) (name : String)
    (first last : Nat) : Prop :=
  ∃ regex, StandsFor rules name regex ∧ ∃ cursor : Cursor, cursor.position = first ∧
    cursor.moveTo last ∈ regex.body.ways text regex.flags cursor

/-- The text between two positions is made of the fragments, the placeholders
standing for the segments given.  Each segment is one that a run of the
placeholder's expression goes over. -/
inductive Decomposes (rules : String -> Option String) (text : Array Char) :
    List Fragment -> (start stop : Nat) -> List (Nat × Nat) -> Prop where
  | nil {position : Nat} (inside : position ≤ text.size) :
      Decomposes rules text [] position position []
  | literal {literal : String} {rest : List Fragment} {start stop : Nat} {spans : List (Nat × Nat)}
      (stands : segment text start (start + literal.toList.length) = literal.toList)
      (later : Decomposes rules text rest (start + literal.toList.length) stop spans) :
      Decomposes rules text (.literal literal :: rest) start stop spans
  | placeholder {name : String} {rest : List Fragment} {start middle stop : Nat}
      {spans : List (Nat × Nat)} (span : Spans rules text name start middle)
      (forward : start ≤ middle) (later : Decomposes rules text rest middle stop spans) :
      Decomposes rules text (.placeholder name :: rest) start stop ((start, middle) :: spans)

/-! ## Runs over literals -/

theorem mem_ways_literal {text : Array Char} {character : Char} {cursor reached : Cursor} :
    reached ∈ Expr.ways text (.literal false character.toNat) { unicode := true } cursor ↔
      text[cursor.position]? = some character ∧
        reached = cursor.moveTo (cursor.position + 1) := by
  have admits : forall candidate : Char,
      (codeAdmits { unicode := true } character.toNat candidate.toNat != false) = true ↔
        candidate = character := by
    intro candidate
    simp [codeAdmits, Char.toNat_inj]
  simp only [Expr.ways, Ways.consume]
  cases text[cursor.position]? with
  | none => simp
  | some candidate =>
      dsimp only
      by_cases same : candidate = character
      · rw [if_pos ((admits candidate).mpr same), List.mem_singleton, Option.some_inj]
        exact ⟨fun moved => ⟨same, moved⟩, And.right⟩
      · rw [if_neg (fun admitted => same ((admits candidate).mp admitted)), Option.some_inj]
        exact ⟨fun member => absurd member List.not_mem_nil, fun both => absurd both.1 same⟩

/-- A literal text is run over where it stands. -/
theorem mem_ways_literals {text : Array Char} {characters : List Char} {items : List Expr}
    {cursor reached : Cursor} :
    reached ∈ Expr.ways text
        (Expr.sequence
          ((characters.map fun character => .literal false character.toNat) ++ items))
        { unicode := true } cursor ↔
      segment text cursor.position (cursor.position + characters.length) = characters ∧
        reached ∈ Expr.ways text (Expr.sequence items) { unicode := true }
          (cursor.moveTo (cursor.position + characters.length)) := by
  induction characters generalizing cursor with
  | nil =>
      have nothing : segment text cursor.position (cursor.position + 0) = [] :=
        segment_self text cursor.position
      exact ⟨fun member => ⟨nothing, member⟩, And.right⟩
  | cons character rest inductiveHypothesis =>
      rw [List.map_cons, List.cons_append, Expr.ways_sequence_cons, List.mem_flatMap,
        List.length_cons, segment_eq_cons]
      have later : _ ∈ Expr.ways _ _ _ (cursor.moveTo (cursor.position + 1)) ↔ _ :=
        inductiveHypothesis
      have further : cursor.position + (rest.length + 1) = cursor.position + 1 + rest.length := by
        omega
      rw [further]
      constructor
      · rintro ⟨middle, first, others⟩
        obtain ⟨stands, rfl⟩ := mem_ways_literal.mp first
        obtain ⟨restStands, member⟩ := later.mp others
        exact ⟨⟨stands, restStands⟩, member⟩
      · rintro ⟨⟨stands, restStands⟩, member⟩
        exact ⟨_, mem_ways_literal.mpr ⟨stands, rfl⟩, later.mpr ⟨restStands, member⟩⟩

/-! ## Runs over fragments -/

/-- The captures of the groups numbered up to `count` are the same.  Groups
are numbered in their order, so this is what the groups so far have
captured. -/
def SameUpTo (count : Nat) (first second : Cursor) : Prop :=
  forall group, group ≤ count -> second.opened.lookup group = first.opened.lookup group ∧
    second.closed.lookup group = first.closed.lookup group

theorem SameUpTo.captured? {count group : Nat} {first second : Cursor}
    (same : SameUpTo count first second) (numbered : group ≤ count) :
    second.captured? group = first.captured? group := by
  unfold Cursor.captured?
  rw [(same group numbered).1, (same group numbered).2]

theorem lookup_cons_of_ne {group other : Nat} (different : other ≠ group) (position : Nat)
    (entries : List (Nat × Nat)) :
    List.lookup other ((group, position) :: entries) = entries.lookup other := by
  rw [List.lookup_cons, beq_eq_false_iff_ne.mpr different]

/-- A group has captured what was moved over inside it, whatever it had
captured before. -/
theorem captured?_closeGroup (cursor : Cursor) (group : Nat) {last : Nat}
    (forward : cursor.position ≤ last) :
    (((cursor.openGroup group).moveTo last).closeGroup group).captured? group =
      some (cursor.position, last) := by
  simp only [Cursor.captured?, Cursor.closeGroup, Cursor.moveTo, Cursor.openGroup,
    List.lookup_cons_self, if_pos forward]

/-- Every run over assembled fragments decomposes the text it goes over, and
the groups have captured the segments. -/
theorem decomposes_of_mem_ways {rules : String -> Option String} {text : Array Char} {count : Nat}
    {fragments : List Fragment} {items : List Expr} (assembles : Assembles rules count fragments items)
    {cursor reached : Cursor} (inside : cursor.position ≤ text.size)
    (member : reached ∈ Expr.ways text (Expr.sequence items) { unicode := true } cursor) :
    ∃ spans, Decomposes rules text fragments cursor.position reached.position spans ∧
      (forall index span, spans[index]? = some span ->
        reached.captured? (count + 1 + index) = some span) ∧
      SameUpTo count cursor reached := by
  induction assembles generalizing cursor with
  | nil count =>
      cases List.mem_singleton.mp member
      exact ⟨[], .nil inside, nofun, fun _ _ => ⟨rfl, rfl⟩⟩
  | literal literal later inductiveHypothesis =>
      obtain ⟨stands, further⟩ := mem_ways_literals.mp member
      obtain ⟨spans, decomposes, captured, same⟩ :=
        inductiveHypothesis (inside_of_segment_eq inside stands) further
      exact ⟨spans, .literal stands decomposes, captured, same⟩
  | @placeholder count name regex rest items stands later inductiveHypothesis =>
      rw [Expr.ways_sequence_cons] at member
      obtain ⟨closed, ran, further⟩ := List.mem_flatMap.mp member
      obtain ⟨middle, inner, rfl⟩ := List.mem_map.mp ran
      have moved := Expr.onlyMove_ways stands.groupFree _ _ middle inner
      have opensInside : (cursor.openGroup (count + 1)).position ≤ text.size := inside
      obtain ⟨forward, limit⟩ := Expr.position_of_mem_ways opensInside inner
      have closesInside : (middle.closeGroup (count + 1)).position ≤ text.size := limit
      obtain ⟨spans, decomposes, captured, same⟩ := inductiveHypothesis closesInside further
      refine ⟨(cursor.position, middle.position) :: spans, .placeholder ?_ forward decomposes, ?_, ?_⟩
      · refine ⟨regex, stands, cursor.openGroup (count + 1), rfl, ?_⟩
        rw [stands.flags, ← moved]
        exact inner
      · intro index span found
        cases index with
        | zero =>
            cases found
            rw [Nat.add_zero, same.captured? (Nat.le_refl _), moved]
            exact captured?_closeGroup cursor (count + 1) forward
        | succ index =>
            have next := captured index span found
            rwa [Nat.add_right_comm (count + 1) 1 index] at next
      · intro group numbered
        have different : group ≠ count + 1 := by omega
        obtain ⟨opened, closed⟩ := same group (by omega)
        rw [opened, closed, moved]
        exact ⟨lookup_cons_of_ne different _ _, lookup_cons_of_ne different _ _⟩

/-! ## What is written and what is bound -/

theorem Decomposes.forward {rules : String -> Option String} {text : Array Char}
    {fragments : List Fragment} {start stop : Nat} {spans : List (Nat × Nat)}
    (decomposes : Decomposes rules text fragments start stop spans) :
    start ≤ stop ∧ stop ≤ text.size := by
  induction decomposes with
  | nil inside => exact ⟨Nat.le_refl _, inside⟩
  | literal _ _ inductiveHypothesis =>
      exact ⟨Nat.le_trans (Nat.le_add_right _ _) inductiveHypothesis.1, inductiveHypothesis.2⟩
  | placeholder _ before _ inductiveHypothesis =>
      exact ⟨Nat.le_trans before inductiveHypothesis.1, inductiveHypothesis.2⟩

theorem Decomposes.length_spans {rules : String -> Option String} {text : Array Char}
    {fragments : List Fragment} {start stop : Nat} {spans : List (Nat × Nat)}
    (decomposes : Decomposes rules text fragments start stop spans) :
    spans.length = (Fragment.names fragments).length := by
  induction decomposes with
  | nil _ => rfl
  | literal _ _ inductiveHypothesis => exact inductiveHypothesis
  | placeholder _ _ _ inductiveHypothesis => exact congrArg (· + 1) inductiveHypothesis

def spanned (text : Array Char) (span : Nat × Nat) : List Char :=
  segment text span.1 span.2

/-- The fragments written with the segments are the text.  Nothing is between
two segments but the literals. -/
theorem Decomposes.written {rules : String -> Option String} {text : Array Char}
    {fragments : List Fragment} {start stop : Nat} {spans : List (Nat × Nat)}
    (decomposes : Decomposes rules text fragments start stop spans) :
    Fragment.written fragments (spans.map (spanned text)) = segment text start stop := by
  induction decomposes with
  | nil _ => exact (segment_self _ _).symm
  | literal stands later inductiveHypothesis =>
      rw [Fragment.written, inductiveHypothesis, ← segment_append (Nat.le_add_right _ _) later.forward.1,
        stands]
  | placeholder _ before later inductiveHypothesis =>
      rw [List.map_cons, Fragment.written, inductiveHypothesis]
      exact segment_append before later.forward.1

theorem filterMapM_eq_ok {Item Made Error : Type} {make : Item -> Except Error (Option Made)}
    {items : List Item} {made : List Made}
    (each : List.Forall₂ (fun item one => make item = .ok (some one)) items made) :
    items.filterMapM make = .ok made := by
  induction each with
  | nil => rfl
  | cons first _ inductiveHypothesis =>
      rw [List.filterMapM_cons, first, inductiveHypothesis]
      rfl

def boundTo (text : Array Char) (name : String) (span : Nat × Nat) : Binding String :=
  ⟨name, String.ofList (spanned text span)⟩

/-- The groups from `offset` on bind the placeholders to the segments they
have captured. -/
theorem forall₂_capturedBinding? {matcher : Matcher} {text : Array Char} {found : Match}
    {names : List String} {spans : List (Nat × Nat)} (sameLength : spans.length = names.length)
    (offset : Nat)
    (groups : forall index, index < names.length ->
      matcher.regex.groupNamed? (groupName ↑(offset + index)) = some (offset + index + 1))
    (captured : forall index span, spans[index]? = some span ->
      found.captured? (offset + index + 1) = some span) :
    List.Forall₂
      (fun named binding =>
        matcher.capturedBinding? text found named.1 named.2 = .ok (some binding))
      (((List.range' offset names.length).map fun (index : Nat) => groupName index).zip names)
      (List.zipWith (boundTo text) names spans) := by
  induction names generalizing spans offset with
  | nil =>
      cases spans with
      | nil => exact .nil
      | cons span rest => cases sameLength
  | cons name rest inductiveHypothesis =>
      cases spans with
      | nil => cases sameLength
      | cons span others =>
          refine .cons ?_ (inductiveHypothesis (Nat.succ.inj sameLength) (offset + 1) ?_ ?_)
          · have group := groups 0 (Nat.zero_lt_succ _)
            have bound := captured 0 span rfl
            simp only [Nat.add_zero] at group bound
            simp only [capturedBinding?, group, bound]
            rfl
          · intro index below
            have next := groups (index + 1) (Nat.succ_lt_succ below)
            rwa [← Nat.add_assoc, Nat.add_right_comm] at next
          · intro index span found
            have next := captured (index + 1) span found
            rwa [← Nat.add_assoc, Nat.add_right_comm offset index 1] at next

/-- The bindings of a match, every placeholder occurrence being bound to its
segment. -/
theorem IsAssembled.bindings_eq {rules : String -> Option String} {fragments : List Fragment}
    {matcher : Matcher} (assembled : IsAssembled rules fragments matcher) {text : Array Char}
    {found : Match} {spans : List (Nat × Nat)}
    (sameLength : spans.length = (Fragment.names fragments).length)
    (captured : forall index span, spans[index]? = some span ->
      found.captured? (index + 1) = some span) :
    matcher.bindings text found =
      .ok (List.zipWith (boundTo text) (Fragment.names fragments) spans) := by
  unfold bindings
  rw [assembled.groupNames, assembled.placeholderNames, List.range_eq_range']
  refine filterMapM_eq_ok (forall₂_capturedBinding? sameLength 0 ?_ ?_)
  · intro index below
    rw [Nat.zero_add]
    exact assembled.groups index below
  · intro index span bound
    rw [Nat.zero_add]
    exact captured index span bound

/-- A match of the assembled expression decomposes what it matches and binds
every placeholder occurrence to its segment. -/
theorem IsAssembled.decomposes_of_matchAt? {rules : String -> Option String}
    {fragments : List Fragment} {matcher : Matcher} (assembled : IsAssembled rules fragments matcher)
    {text : Array Char} {start : Nat} {accepts : Nat -> Bool} {found : Match}
    (inside : start ≤ text.size)
    (matched : matcher.regex.matchAt? text start accepts = some found) :
    ∃ spans, Decomposes rules text fragments found.start found.stop spans ∧
      accepts found.stop = true ∧
      matcher.bindings text found =
        .ok (List.zipWith (boundTo text) (Fragment.names fragments) spans) := by
  obtain ⟨items, assembles, body⟩ := assembled.body
  obtain ⟨answer, ran, rfl⟩ := Option.map_eq_some_iff.mp matched
  rw [Expr.tries_run, List.findSome?_eq_some_iff] at ran
  obtain ⟨_, reached, _, whole, accepted, _⟩ := ran
  have member : reached ∈ Expr.ways text matcher.regex.body matcher.regex.flags (.start start) :=
    whole ▸ List.mem_append_right _ List.mem_cons_self
  split at accepted
  · rename_i accepting
    cases accepted
    rw [body, assembled.flags] at member
    have startInside : (Cursor.start start).position ≤ text.size := inside
    obtain ⟨spans, decomposes, captured, _⟩ :=
      decomposes_of_mem_ways assembles startInside member
    refine ⟨spans, decomposes, accepting, assembled.bindings_eq decomposes.length_spans ?_⟩
    intro index span bound
    have next := captured index span bound
    rwa [Nat.zero_add, Nat.add_comm] at next
  · cases accepted

end Matcher
end Stencil

import Stencil.Proofs.Pattern.RoundTrip
import Stencil.Proofs.Running.Language

namespace Stencil

/-!
Matching is exact for regular expressions proper.  If the expressions for the
placeholders are made of characters, classes, sequences, alternatives, greedy
and lazy repetitions and groups with flags of their own, then a pattern
matches a text exactly if the text can be written as the template says, with
values that the expressions accept on their own, and the bindings are such
values.  No way of writing the text is missed, whatever an earlier placeholder
took first.

The main statement is `Pattern.matchWhole_exact`.
-/

open Regex

namespace Matcher

/-- The isolated expression for the placeholder matches the whole value on its
own. -/
def Accepts (rules : String -> Option String) (name value : String) : Prop :=
  ∃ isolated regex, isolatedRule rules name = .ok isolated ∧
    Regex.compile isolated = .ok regex ∧
    (regex.matchWhole? value.toList.toArray).isSome = true

/-- The isolated expression for the placeholder, if it has one, is regular: it
is made without anchors, looks, references, atomic groups and possessive
repetition. -/
def HasRegularRule (rules : String -> Option String) (name : String) : Prop :=
  forall isolated regex, isolatedRule rules name = .ok isolated ->
    Regex.compile isolated = .ok regex -> regex.body.isRegular = true

variable {rules : String -> Option String} {text : Array Char} {name : String}

/-- Whether the expression is regular can be seen by compiling it, so the
condition can be checked by running it. -/
theorem hasRegularRule_of_all
    (all : (isolatedRule rules name).toOption.all (fun isolated =>
      (Regex.compile isolated).toOption.all fun regex => regex.body.isRegular) = true) :
    HasRegularRule rules name := by
  intro isolated regex ruled compiled
  rw [ruled, Except.toOption, Option.all_some, compiled, Except.toOption, Option.all_some] at all
  exact all

theorem StandsFor.unique {regex : Regex} (stands : StandsFor rules name regex) {isolated : String}
    (ruled : isolatedRule rules name = .ok isolated) {other : Regex}
    (compiled : Regex.compile isolated = .ok other) : regex = other := by
  obtain ⟨⟨same, sameRuled, sameCompiled⟩, _, _⟩ := stands
  obtain rfl := Except.ok.inj (sameRuled.symm.trans ruled)
  exact Except.ok.inj (sameCompiled.symm.trans compiled)

/-- What a run for a placeholder goes over is accepted on its own.  A regular
expression does not look at what is around it. -/
theorem accepts_of_spans (regular : HasRegularRule rules name) {first last : Nat}
    (span : Spans rules text name first last) (forward : first ≤ last) (inside : last ≤ text.size) :
    Accepts rules name (String.ofList (segment text first last)) := by
  obtain ⟨regex, stands, cursor, rfl, member⟩ := span
  obtain ⟨isolated, ruled, compiled⟩ := stands.compiled
  have isRegular := regular isolated regex ruled compiled
  obtain ⟨stop, _, _, same, word⟩ := (Expr.spells_ways text isRegular regex.flags cursor _
    (Nat.le_trans forward inside)).mp member
  obtain rfl : last = stop := congrArg Cursor.position same
  refine ⟨isolated, regex, ruled, compiled, (isSome_matchWhole?_iff_mem isRegular _).mpr ?_⟩
  rw [String.toList_ofList]
  exact word

/-- What is accepted on its own is run over wherever it stands, among the
other ways that there may be. -/
theorem StandsFor.mem_ways {regex : Regex} (stands : StandsFor rules name regex)
    (regular : HasRegularRule rules name) {value : String} (accepts : Accepts rules name value)
    {cursor : Cursor} {stop : Nat} (forward : cursor.position ≤ stop) (inside : stop ≤ text.size)
    (here : segment text cursor.position stop = value.toList) :
    cursor.moveTo stop ∈ regex.body.ways text { unicode := true } cursor := by
  obtain ⟨isolated, other, ruled, compiled, matched⟩ := accepts
  obtain rfl := stands.unique ruled compiled
  have isRegular := regular isolated regex ruled compiled
  have word := (isSome_matchWhole?_iff_mem isRegular _).mp matched
  rw [stands.flags] at word
  exact (Expr.spells_ways text isRegular _ cursor _ (Nat.le_trans forward inside)).mpr
    ⟨stop, forward, inside, rfl, here ▸ word⟩

/-- A text written with accepted values is run over to its end.  The run need
not be the first one that is tried. -/
theorem exists_mem_ways_of_written {count : Nat} {fragments : List Fragment} {items : List Expr}
    (assembles : Assembles rules count fragments items)
    (regular : forall name, name ∈ Fragment.names fragments -> HasRegularRule rules name)
    {values : List String}
    (accepted : List.Forall₂ (Accepts rules) (Fragment.names fragments) values) {cursor : Cursor}
    {stop : Nat} (forward : cursor.position ≤ stop) (inside : stop ≤ text.size)
    (written : segment text cursor.position stop =
      Fragment.written fragments (values.map String.toList)) :
    ∃ reached, reached ∈ Expr.ways text (Expr.sequence items) { unicode := true } cursor ∧
      reached.position = stop := by
  induction assembles generalizing values cursor with
  | nil count =>
      have length := congrArg List.length written
      rw [length_segment forward inside] at length
      obtain rfl : stop = cursor.position := Nat.le_antisymm (Nat.le_of_sub_eq_zero length) forward
      exact ⟨cursor, List.mem_singleton_self cursor, rfl⟩
  | literal literal later inductiveHypothesis =>
      rw [Fragment.written] at written
      obtain ⟨middle, before, after, front, back⟩ :=
        exists_of_segment_eq_append forward inside written
      have length := congrArg List.length front
      rw [length_segment before (Nat.le_trans after inside)] at length
      obtain rfl : middle = cursor.position + literal.toList.length := by omega
      have moved : (cursor.moveTo (cursor.position + literal.toList.length)).position ≤ stop := after
      obtain ⟨reached, member, ends⟩ := inductiveHypothesis regular accepted moved back
      exact ⟨reached, mem_ways_literals.mpr ⟨front, member⟩, ends⟩
  | @placeholder count name regex rest items stands later inductiveHypothesis =>
      obtain ⟨isRegular, othersRegular⟩ := List.forall_mem_cons.mp regular
      cases accepted with
      | cons first others =>
          rw [List.map_cons, Fragment.written] at written
          obtain ⟨middle, before, after, front, back⟩ :=
            exists_of_segment_eq_append forward inside written
          have opened : (cursor.openGroup (count + 1)).position ≤ middle := before
          have ran := stands.mem_ways isRegular first opened (Nat.le_trans after inside) front
          let closed : Cursor :=
            ((cursor.openGroup (count + 1)).moveTo middle).closeGroup (count + 1)
          have moved : closed.position ≤ stop := after
          obtain ⟨reached, member, ends⟩ := inductiveHypothesis othersRegular others moved back
          refine ⟨reached, ?_, ends⟩
          rw [Expr.ways_sequence_cons]
          exact List.mem_flatMap.mpr ⟨closed, List.mem_map.mpr ⟨_, ran, rfl⟩, member⟩

/-- The segments of a decomposition are accepted. -/
theorem Decomposes.accepted {fragments : List Fragment} {start stop : Nat}
    {spans : List (Nat × Nat)} (decomposes : Decomposes rules text fragments start stop spans)
    (regular : forall name, name ∈ Fragment.names fragments -> HasRegularRule rules name) :
    forall binding, binding ∈ List.zipWith (boundTo text) (Fragment.names fragments) spans ->
      Accepts rules binding.name binding.value := by
  induction decomposes with
  | nil _ => exact nofun
  | literal _ _ inductiveHypothesis => exact inductiveHypothesis regular
  | placeholder span forward later inductiveHypothesis =>
      obtain ⟨isRegular, othersRegular⟩ := List.forall_mem_cons.mp regular
      have inside := Nat.le_trans later.forward.1 later.forward.2
      exact List.forall_mem_cons.mpr
        ⟨accepts_of_spans isRegular span forward inside, inductiveHypothesis othersRegular⟩

end Matcher

namespace Pattern

/-- Every placeholder of the template has a regular expression proper, if it
has one at all. -/
def IsRegular (pattern : Pattern) : Prop :=
  forall name, name ∈ pattern.template.names ->
    Matcher.HasRegularRule pattern.rules.expression? name

/-- The text is the template written with the values bound, which name its
placeholders in order and are each accepted by its own expression.  Nothing is
said of a matcher, or of how such values are found. -/
structure Explains (pattern : Pattern) (bindings : List (Binding String)) (text : String) :
    Prop where
  names : Binding.names bindings = pattern.template.names
  accepted : forall binding, binding ∈ bindings ->
    Matcher.Accepts pattern.rules.expression? binding.name binding.value
  written : text.toList =
    Fragment.written pattern.fragments (bindings.map fun binding => binding.value.toList)

variable {pattern : Pattern}

theorem Explains.forall₂ {bindings : List (Binding String)} {text : String}
    (explains : pattern.Explains bindings text) :
    List.Forall₂ (Matcher.Accepts pattern.rules.expression?)
      (Fragment.names pattern.fragments) (bindings.map Binding.value) := by
  have names : Fragment.names pattern.fragments = bindings.map Binding.name :=
    pattern.template.names_fragments.trans explains.names.symm
  rw [names, List.forall₂_map_left_iff, List.forall₂_map_right_iff, List.forall₂_same]
  exact explains.accepted

/-- A text that can be explained is matched, though perhaps in another way. -/
theorem exists_matchWhole_of_explains (coherent : pattern.IsCoherent) {matcher : Matcher}
    (compiles : pattern.compile = .ok matcher) (regular : pattern.IsRegular)
    {bindings : List (Binding String)} {text : String}
    (explains : pattern.Explains bindings text) :
    ∃ found, pattern.matchWhole text = .ok found := by
  have assembled := isAssembled_of_compile coherent compiles
  obtain ⟨items, assembles, body⟩ := assembled.body
  have isRegular : forall name, name ∈ Fragment.names pattern.fragments ->
      Matcher.HasRegularRule pattern.rules.expression? name := by
    have names : Fragment.names pattern.fragments = pattern.template.names :=
      pattern.template.names_fragments
    rw [names]
    exact regular
  have written : segment text.toList.toArray (Cursor.start 0).position text.toList.toArray.size =
      Fragment.written pattern.fragments ((bindings.map Binding.value).map String.toList) := by
    have whole := segment_whole text.toList.toArray
    rw [List.map_map]
    exact whole.trans explains.written
  obtain ⟨reached, member, ends⟩ := Matcher.exists_mem_ways_of_written assembles isRegular
    explains.forall₂ (Nat.zero_le _) (Nat.le_refl _) written
  rw [← body, ← assembled.flags] at member
  have matched := isSome_matchWhole?_iff.mpr ⟨reached, member, ends⟩
  rcases matchWhole_eq_or coherent compiles text with ⟨unmatched, _⟩ | ⟨spans, _, done⟩
  · rw [unmatched] at matched
    cases matched
  · exact ⟨_, done⟩

theorem explains_of_matchWhole (coherent : pattern.IsCoherent) {matcher : Matcher}
    (compiles : pattern.compile = .ok matcher) (regular : pattern.IsRegular) {text : String}
    {bindings : List (Binding String)} (matched : pattern.matchWhole text = .ok bindings) :
    pattern.Explains bindings text := by
  have names : Fragment.names pattern.fragments = pattern.template.names :=
    pattern.template.names_fragments
  rcases matchWhole_eq_or coherent compiles text with ⟨_, unmatched⟩ | ⟨spans, decomposes, done⟩
  · cases unmatched.symm.trans matched
  · obtain rfl := Except.ok.inj (done.symm.trans matched)
    refine ⟨(restores_of_decomposes decomposes).1, ?_, ?_⟩
    · exact decomposes.accepted fun name member => regular name (names ▸ member)
    · have values : (List.zipWith (Matcher.boundTo text.toList.toArray)
            (Fragment.names pattern.fragments) spans).map (fun binding => binding.value.toList) =
          spans.map (Matcher.spanned text.toList.toArray) := by
        change List.map (String.toList ∘ Binding.value) _ = _
        rw [zipWith_boundTo, ← List.map_map, Binding.values_zipWith _ _ (length_values decomposes),
          List.map_map]
        simp only [Function.comp_def, String.toList_ofList]
      rw [values, decomposes.written]
      exact (segment_whole text.toList.toArray).symm

/-- Applying the pattern to accepted values writes a text that they
explain. -/
theorem exists_apply_of_accepted {bindings : List (Binding String)}
    (names : Binding.names bindings = pattern.template.names)
    (accepted : forall binding, binding ∈ bindings ->
      Matcher.Accepts pattern.rules.expression? binding.name binding.value) :
    ∃ text, pattern.apply bindings = .ok text ∧ pattern.Explains bindings text := by
  have sameLength : (bindings.map Binding.value).length = pattern.template.names.length := by
    rw [← names, Binding.names, List.length_map, List.length_map]
  have applied := pattern.apply_zipWith sameLength
  rw [← names, Binding.zipWith_names_values, List.map_map] at applied
  exact ⟨_, applied, names, accepted, String.toList_ofList⟩

/-- A pattern with regular expressions proper matches exactly the texts that
can be explained, binds what explains them, and matches whatever it writes
with accepted values. -/
theorem matchWhole_exact (coherent : pattern.IsCoherent) {matcher : Matcher}
    (compiles : pattern.compile = .ok matcher) (regular : pattern.IsRegular) :
    (forall text,
      (∃ bindings, pattern.matchWhole text = .ok bindings ∧ pattern.Explains bindings text) ∨
      (pattern.matchWhole text = .error .noMatch ∧
        ¬ ∃ bindings, pattern.Explains bindings text)) ∧
    forall bindings, Binding.names bindings = pattern.template.names ->
      (forall binding, binding ∈ bindings ->
        Matcher.Accepts pattern.rules.expression? binding.name binding.value) ->
      ∃ text, pattern.apply bindings = .ok text ∧
        ∃ found, pattern.matchWhole text = .ok found ∧
          ((forall other, pattern.Explains other text -> other = bindings) -> found = bindings) := by
  constructor
  · intro text
    rcases restores_of_matchWhole coherent compiles text with noMatch | ⟨bindings, done, _⟩
    · refine .inr ⟨noMatch, fun ⟨bindings, explains⟩ => ?_⟩
      obtain ⟨found, done⟩ := exists_matchWhole_of_explains coherent compiles regular explains
      cases noMatch.symm.trans done
    · exact .inl ⟨bindings, done, explains_of_matchWhole coherent compiles regular done⟩
  · intro bindings names accepted
    obtain ⟨text, applied, explains⟩ := exists_apply_of_accepted names accepted
    obtain ⟨found, done⟩ := exists_matchWhole_of_explains coherent compiles regular explains
    refine ⟨text, applied, found, done, fun unique => unique found ?_⟩
    exact explains_of_matchWhole coherent compiles regular done

/-- Two runs of words, the first of them greedy, around a sign. -/
def runsExample : Pattern :=
  ⟨"${x}-${y}", ⟨[("", "x"), ("-", "y")], ""⟩,
    ⟨[("x", some "(?:a|\\d)*?b|[^x]+"), ("y", some "(?i:c*)(?:-c)?")]⟩, none⟩

theorem matchWhole_exact_runsExample :
    runsExample.IsCoherent ∧ runsExample.IsRegular ∧
      ∃ matcher, runsExample.compile = .ok matcher ∧
        ∃ bindings, runsExample.matchWhole "a-b-C-c" = .ok bindings ∧
          runsExample.Explains bindings "a-b-C-c" := by
  have coherent : runsExample.IsCoherent := nofun
  have regular : runsExample.IsRegular := by
    intro name member
    have names : runsExample.template.names = ["x", "y"] := rfl
    rw [names, List.mem_cons, List.mem_singleton] at member
    rcases member with rfl | rfl
    · exact Matcher.hasRegularRule_of_all (by decide +kernel)
    · exact Matcher.hasRegularRule_of_all (by decide +kernel)
  have compiles : runsExample.compile.toOption.isSome = true := by decide +kernel
  cases compiled : runsExample.compile with
  | error failure =>
      rw [compiled] at compiles
      cases compiles
  | ok matcher =>
      have matched : (runsExample.matchWhole "a-b-C-c").toOption.isSome = true := by
        decide +kernel
      refine ⟨coherent, regular, matcher, rfl, ?_⟩
      rcases (matchWhole_exact coherent compiled regular).1 "a-b-C-c" with found | ⟨noMatch, _⟩
      · exact found
      · rw [noMatch] at matched
        cases matched

end Pattern
end Stencil

import Stencil.Proofs.Pattern.Coherence
import Stencil.Proofs.Pattern.Substitution

namespace Stencil

/-!
Matching and then applying.  Whatever a pattern binds its placeholders to when
it matches a text, or a part of a text, the template filled with those values
is that text again: the bindings name the placeholders in the order of the
template, and each holds the segment that its own occurrence stands for.
Nothing is assumed of the expressions but that the pattern can be compiled.

The main statement is `Pattern.apply_of_matched`.
-/

namespace Regex

/-- Every match found later is a match at some place in the text. -/
theorem matchAt?_of_searchAmong? {regex : Regex} {text : Array Char} {count start : Nat}
    {found : Match} (inside : start + count ≤ text.size + 1)
    (matched : regex.searchAmong? text count start = some found) :
    ∃ place accepts, place ≤ text.size ∧ regex.matchAt? text place accepts = some found := by
  induction count generalizing start with
  | zero => cases matched
  | succ count inductiveHypothesis =>
      rcases Option.or_eq_some_iff.mp matched with tried | ⟨_, later⟩
      · exact ⟨start, _, by omega, (tryAt?_eq_some_iff.mp tried).2⟩
      · exact inductiveHypothesis (by omega) later

theorem matchAt?_of_search? {regex : Regex} {text : Array Char} {start : Nat} {nonEmpty : Bool}
    {found : Match} (matched : regex.search? text start nonEmpty = some found) :
    ∃ place accepts, place ≤ text.size ∧ regex.matchAt? text place accepts = some found := by
  unfold search? at matched
  split at matched
  · cases matched
  · rcases Option.or_eq_some_iff.mp matched with tried | ⟨_, later⟩
    · exact ⟨start, _, by omega, (tryAt?_eq_some_iff.mp tried).2⟩
    · exact matchAt?_of_searchAmong? (by omega) later

theorem matchAt?_of_mem_matchesFrom {regex : Regex} {text : Array Char} {start : Nat}
    {nonEmpty : Bool} {found : Match} (member : found ∈ regex.matchesFrom text start nonEmpty) :
    ∃ place accepts, place ≤ text.size ∧ regex.matchAt? text place accepts = some found := by
  fun_induction regex.matchesFrom text start nonEmpty with
  | case1 => cases member
  | case2 start nonEmpty first matched inductiveHypothesis =>
      rcases List.mem_cons.mp member with rfl | later
      · exact matchAt?_of_search? matched
      · exact inductiveHypothesis later

end Regex

namespace Pattern

theorem isAssembled_of_compile {pattern : Pattern} (coherent : pattern.IsCoherent)
    {matcher : Matcher} (compiles : pattern.compile = .ok matcher) :
    matcher.IsAssembled pattern.rules.expression? pattern.fragments :=
  Matcher.isAssembled_ofFragments (compile_of_isCoherent coherent ▸ compiles)

/-- The bindings name the placeholders as the template does and give the text
back. -/
def Restores (pattern : Pattern) (bindings : List (Binding String)) (text : List Char) : Prop :=
  Binding.names bindings = pattern.template.names ∧
    pattern.apply bindings = .ok (String.ofList text)

/-- What a decomposition binds are the names of the placeholders and the
segments, as values. -/
theorem zipWith_boundTo {pattern : Pattern} (text : Array Char) (spans : List (Nat × Nat)) :
    List.zipWith (Matcher.boundTo text) (Fragment.names pattern.fragments) spans =
      List.zipWith Binding.mk pattern.template.names
        (spans.map fun span => String.ofList (Matcher.spanned text span)) := by
  have names : Fragment.names pattern.fragments = pattern.template.names :=
    pattern.template.names_fragments
  rw [names, List.zipWith_map_right]
  rfl

theorem length_values {pattern : Pattern} {text : Array Char} {start stop : Nat}
    {spans : List (Nat × Nat)}
    (decomposes :
      Matcher.Decomposes pattern.rules.expression? text pattern.fragments start stop spans) :
    (spans.map fun span => String.ofList (Matcher.spanned text span)).length =
      pattern.template.names.length := by
  have names : Fragment.names pattern.fragments = pattern.template.names :=
    pattern.template.names_fragments
  rw [List.length_map, decomposes.length_spans, names]

theorem restores_of_decomposes {pattern : Pattern} {text : Array Char} {start stop : Nat}
    {spans : List (Nat × Nat)}
    (decomposes :
      Matcher.Decomposes pattern.rules.expression? text pattern.fragments start stop spans) :
    pattern.Restores
      (List.zipWith (Matcher.boundTo text) (Fragment.names pattern.fragments) spans)
      (Regex.segment text start stop) := by
  have sameLength := length_values decomposes
  rw [zipWith_boundTo]
  refine ⟨Binding.names_zipWith _ _ sameLength, ?_⟩
  rw [pattern.apply_zipWith sameLength, List.map_map]
  have written := decomposes.written
  simp only [Function.comp_def, String.toList_ofList]
  exact congrArg (fun characters => Except.ok (String.ofList characters)) written

/-- Either the regular expression has no match over the whole text, and that
is what is reported, or the bindings are the segments of a decomposition of
the whole text. -/
theorem matchWhole_eq_or {pattern : Pattern} (coherent : pattern.IsCoherent) {matcher : Matcher}
    (compiles : pattern.compile = .ok matcher) (text : String) :
    (matcher.regex.matchWhole? text.toList.toArray = none ∧
      pattern.matchWhole text = .error .noMatch) ∨
    ∃ spans, Matcher.Decomposes pattern.rules.expression? text.toList.toArray pattern.fragments
        0 text.toList.toArray.size spans ∧
      pattern.matchWhole text = .ok (List.zipWith (Matcher.boundTo text.toList.toArray)
        (Fragment.names pattern.fragments) spans) := by
  have assembled := isAssembled_of_compile coherent compiles
  have whole : pattern.matchWhole text = matcher.matchWhole text := by
    unfold matchWhole
    rw [compiles]
    rfl
  rw [whole]
  cases matched : matcher.regex.matchWhole? text.toList.toArray with
  | none =>
      refine .inl ⟨rfl, ?_⟩
      simp only [Matcher.matchWhole, Matcher.matchWhole?, matched]
      rfl
  | some found =>
      obtain ⟨startsAt, _, _, _⟩ := Regex.matchAt?_eq_some (Nat.zero_le _) matched
      obtain ⟨spans, decomposes, ends, bound⟩ :=
        assembled.decomposes_of_matchAt? (Nat.zero_le _) matched
      rw [startsAt, eq_of_beq ends] at decomposes
      refine .inr ⟨spans, decomposes, ?_⟩
      simp only [Matcher.matchWhole, Matcher.matchWhole?, matched, bound]
      rfl

/-- Matching fails for no other reason than that the text does not match. -/
theorem restores_of_matchWhole {pattern : Pattern} (coherent : pattern.IsCoherent)
    {matcher : Matcher} (compiles : pattern.compile = .ok matcher) (text : String) :
    pattern.matchWhole text = .error .noMatch ∨
      ∃ bindings, pattern.matchWhole text = .ok bindings ∧
        pattern.Restores bindings text.toList := by
  rcases matchWhole_eq_or coherent compiles text with ⟨_, noMatch⟩ | ⟨spans, decomposes, done⟩
  · exact .inl noMatch
  · have restores := restores_of_decomposes decomposes
    have everything : Regex.segment text.toList.toArray 0 text.toList.toArray.size =
        text.toList := Regex.segment_whole _
    rw [everything] at restores
    exact .inr ⟨_, done, restores⟩

theorem mapM_eq_ok {Item Made Error : Type} {make : Item -> Except Error Made}
    {items : List Item} (each : forall item, item ∈ items -> ∃ made, make item = .ok made) :
    ∃ made, items.mapM make = .ok made ∧
      forall one, one ∈ made -> ∃ item, item ∈ items ∧ make item = .ok one := by
  induction items with
  | nil => exact ⟨[], rfl, nofun⟩
  | cons item rest inductiveHypothesis =>
      obtain ⟨first, done⟩ := each item List.mem_cons_self
      obtain ⟨others, allDone, origin⟩ := inductiveHypothesis fun other member =>
        each other (List.mem_cons_of_mem _ member)
      refine ⟨first :: others, ?_, fun one member => ?_⟩
      · rw [List.mapM_cons, done, allDone]
        rfl
      · rcases List.mem_cons.mp member with rfl | later
        · exact ⟨item, List.mem_cons_self, done⟩
        · obtain ⟨other, among, made⟩ := origin one later
          exact ⟨other, List.mem_cons_of_mem _ among, made⟩

/-- All matches can be bound, and the bindings of each restore the part of the
text it matches. -/
theorem restores_of_findAll {pattern : Pattern} (coherent : pattern.IsCoherent)
    {matcher : Matcher} (compiles : pattern.compile = .ok matcher) (text : String) :
    ∃ visits, pattern.findAll text = .ok visits ∧ forall visit, visit ∈ visits ->
      visit.start ≤ visit.stop ∧ visit.stop ≤ text.toList.length ∧
        pattern.Restores visit.bindings
          (Regex.segment text.toList.toArray visit.start visit.stop) := by
  have assembled := isAssembled_of_compile coherent compiles
  have whole : pattern.findAll text = matcher.findAll text := by
    unfold findAll
    rw [compiles]
    rfl
  let visitOf (found : Regex.Match) : Outcome Matcher.Visit := do
    let bindings ← matcher.bindings text.toList.toArray found
    pure ⟨found.start, found.stop, bindings⟩
  have each : forall found, found ∈ matcher.regex.findAll text.toList.toArray ->
      ∃ spans, Matcher.Decomposes pattern.rules.expression? text.toList.toArray pattern.fragments
          found.start found.stop spans ∧
        visitOf found = .ok ⟨found.start, found.stop,
          List.zipWith (Matcher.boundTo text.toList.toArray) (Fragment.names pattern.fragments)
            spans⟩ := by
    intro found member
    obtain ⟨place, accepts, inside, matched⟩ := Regex.matchAt?_of_mem_matchesFrom member
    obtain ⟨spans, decomposes, _, bound⟩ := assembled.decomposes_of_matchAt? inside matched
    refine ⟨spans, decomposes, ?_⟩
    simp only [visitOf, bound]
    rfl
  obtain ⟨visits, done, origin⟩ := mapM_eq_ok fun found member =>
    let ⟨_, _, made⟩ := each found member
    ⟨_, made⟩
  refine ⟨visits, whole.trans done, fun visit member => ?_⟩
  obtain ⟨found, among, made⟩ := origin visit member
  obtain ⟨spans, decomposes, same⟩ := each found among
  obtain rfl := Except.ok.inj (made.symm.trans same)
  exact ⟨decomposes.forward.1, decomposes.forward.2, restores_of_decomposes decomposes⟩

/-- Matching and then applying is the identity, for whole texts and for every
match in a text. -/
theorem apply_of_matched {pattern : Pattern} (coherent : pattern.IsCoherent) {matcher : Matcher}
    (compiles : pattern.compile = .ok matcher) (text : String) :
    (pattern.matchWhole text = .error .noMatch ∨
      ∃ bindings, pattern.matchWhole text = .ok bindings ∧
        Binding.names bindings = pattern.template.names ∧ pattern.apply bindings = .ok text) ∧
    ∃ visits, pattern.findAll text = .ok visits ∧ forall visit, visit ∈ visits ->
      visit.start ≤ visit.stop ∧ visit.stop ≤ text.toList.length ∧
        Binding.names visit.bindings = pattern.template.names ∧
        pattern.apply visit.bindings = .ok (String.ofList
          ((text.toList.drop visit.start).take (visit.stop - visit.start))) := by
  constructor
  · rcases restores_of_matchWhole coherent compiles text with noMatch | ⟨bindings, done, restores⟩
    · exact .inl noMatch
    · have applied := restores.2
      rw [String.ofList_toList] at applied
      exact .inr ⟨bindings, done, restores.1, applied⟩
  · obtain ⟨visits, done, each⟩ := restores_of_findAll coherent compiles text
    refine ⟨visits, done, fun visit member => ?_⟩
    obtain ⟨forward, inside, names, applied⟩ := each visit member
    refine ⟨forward, inside, names, ?_⟩
    obtain ⟨width, stops⟩ := Nat.exists_eq_add_of_le forward
    rw [stops, Regex.segment_eq_take] at applied
    rw [applied, stops, Nat.add_sub_cancel_left]

/-- A template with a repeated placeholder between literals, bound to
alternatives. -/
def repeatedExample : Pattern :=
  ⟨"${x}-${y}+${x}", ⟨[("", "x"), ("-", "y"), ("+", "x")], ""⟩,
    ⟨[("x", some "(?i:a)|(b)"), ("y", some "\\w*?")]⟩, none⟩

theorem apply_of_matched_repeatedExample :
    repeatedExample.IsCoherent ∧ ∃ matcher, repeatedExample.compile = .ok matcher ∧
      ∃ bindings, repeatedExample.matchWhole "A-c+b" = .ok bindings ∧
        Binding.names bindings = ["x", "y", "x"] ∧ repeatedExample.apply bindings = .ok "A-c+b" := by
  have coherent : repeatedExample.IsCoherent := nofun
  have compiles : repeatedExample.compile.toOption.isSome = true := by decide +kernel
  cases compiled : repeatedExample.compile with
  | error failure =>
      rw [compiled] at compiles
      cases compiles
  | ok matcher =>
      have matched : (repeatedExample.matchWhole "A-c+b").toOption.isSome = true := by
        decide +kernel
      refine ⟨coherent, matcher, rfl, ?_⟩
      rcases (apply_of_matched coherent compiled "A-c+b").1 with noMatch | found
      · rw [noMatch] at matched
        cases matched
      · exact found

end Pattern
end Stencil

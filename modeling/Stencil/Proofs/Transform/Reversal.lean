import Stencil.Proofs.Pattern.Exactness
import Stencil.Proofs.Pattern.Making
import Stencil.Transform

namespace Stencil

/-!
Undoing a transform by its reverse.  Values are told apart by their names and,
within a name, by their order, so the two sides may list their placeholders in
different orders and repeat them: what the left-hand side binds can be listed
in the order of the right-hand side without disturbing the values of any name.
Listed so, the values explain the text that the right-hand side writes; if
nothing else explains it, matching it gives these values back, and the
left-hand side writes them as it found them.

The check of a transform is what lets the bindings be listed in the other
order.  That the text has no second explanation does not follow from the
check, and is assumed.

The main statement is `Transform.reverse_apply_of_apply`.
-/

namespace Binding

variable {Value : Type} {bindings : List (Binding Value)} {name : String}

theorem valuesOf_cons (binding : Binding Value) (rest : List (Binding Value)) (name : String) :
    valuesOf (binding :: rest) name =
      if binding.name = name then binding.value :: valuesOf rest name else valuesOf rest name := by
  by_cases same : binding.name = name
  · simp [valuesOf, same]
  · simp [valuesOf, same]

theorem mem_valuesOf_iff {value : Value} :
    value ∈ valuesOf bindings name ↔ ⟨name, value⟩ ∈ bindings := by
  rw [valuesOf, List.mem_map]
  constructor
  · rintro ⟨binding, member, rfl⟩
    rcases List.mem_filter.mp member with ⟨among, same⟩
    rw [← eq_of_beq same]
    exact among
  · intro among
    exact ⟨⟨name, value⟩, List.mem_filter.mpr ⟨among, beq_self_eq_true name⟩, rfl⟩

/-- A name that is bound has a first binding, and the bindings before it are
of other names. -/
theorem exists_first_of_mem (bound : name ∈ names bindings) :
    ∃ before value after, bindings = before ++ ⟨name, value⟩ :: after ∧ name ∉ names before := by
  rcases List.eq_append_cons_of_mem bound with ⟨namesBefore, namesAfter, written, absent⟩
  rcases List.map_eq_append_iff.mp written with ⟨before, others, rfl, rfl, namesOthers⟩
  rcases List.map_eq_cons_iff.mp namesOthers with ⟨binding, after, rfl, rfl, _⟩
  exact ⟨before, binding.value, after, rfl, absent⟩

/-- Bindings can be listed in any order of their names, each name keeping its
values as they are. -/
theorem exists_rearranged {order : List String}
    (sameCounts : forall name, order.count name = (names bindings).count name) :
    ∃ rearranged, names rearranged = order ∧
      forall name, valuesOf rearranged name = valuesOf bindings name := by
  induction order generalizing bindings with
  | nil =>
      refine ⟨[], rfl, fun name => ?_⟩
      have absent : name ∉ names bindings := List.count_eq_zero.mp (sameCounts name).symm
      exact (valuesOf_of_not_mem absent).symm
  | cons first rest inductiveHypothesis =>
      have bound : first ∈ names bindings := by
        apply List.count_pos_iff.mp
        rw [← sameCounts, List.count_cons_self]
        exact Nat.succ_pos _
      rcases exists_first_of_mem bound with ⟨before, value, after, rfl, absent⟩
      have countsLeft : forall name, rest.count name = (names (before ++ after)).count name := by
        intro name
        have counts := sameCounts name
        simp only [names, List.map_append, List.map_cons, List.count_append, List.count_cons] at counts ⊢
        omega
      rcases inductiveHypothesis countsLeft with ⟨rearranged, named, values⟩
      refine ⟨⟨first, value⟩ :: rearranged, congrArg (first :: ·) named, fun name => ?_⟩
      rw [valuesOf_cons, values, valuesOf_append, valuesOf_append, valuesOf_cons]
      by_cases same : first = name
      · subst same
        rw [if_pos rfl, if_pos rfl, valuesOf_of_not_mem absent]
        rfl
      · rw [if_neg same, if_neg same]

end Binding

namespace Pattern

variable {pattern derived : Pattern}

theorem names_bindings (pattern : Pattern) :
    Binding.names pattern.bindings = pattern.template.names := by
  simp only [Binding.names, bindings, List.map_map, Function.comp_def, List.map_id']

/-- Bindings fill a template alike if every name has the same values in the
same order. -/
theorem apply_congr (pattern : Pattern) {first second : List (Binding String)}
    (same : forall name, Binding.valuesOf first name = Binding.valuesOf second name) :
    pattern.apply first = pattern.apply second := by
  have values : valueFor first = valueFor second := by
    funext name occurrence
    simp only [valueFor, Binding.valueAt?, same]
  rw [apply_eq_fillWith, apply_eq_fillWith, values]

/-- A pattern that is derived gives its placeholders the expressions that they
had. -/
theorem expression?_of_derive {text : String} (done : pattern.derive text = .ok derived)
    {name : String} (member : name ∈ derived.template.names) :
    derived.rules.expression? name = pattern.rules.expression? name := by
  rcases derive_eq_ok_iff.mp done with ⟨template, _, _, rfl⟩
  exact Rules.expression?_ofNames member

theorem accepts_congr {rules others : String -> Option String} {name : String}
    (same : rules name = others name) {value : String} :
    Matcher.Accepts rules name value -> Matcher.Accepts others name value := by
  rintro ⟨isolated, regex, ruled, compiled, matched⟩
  refine ⟨isolated, regex, ?_, compiled, matched⟩
  rw [Matcher.isolatedRule, ← same]
  exact ruled

theorem hasRegularRule_congr {rules others : String -> Option String} {name : String}
    (same : rules name = others name) (regular : Matcher.HasRegularRule rules name) :
    Matcher.HasRegularRule others name := by
  intro isolated regex ruled compiled
  refine regular isolated regex ?_ compiled
  rw [Matcher.isolatedRule, same]
  exact ruled

end Pattern

namespace Transform

variable {left right : String} {bindings : List (Binding (Option String))} {verbose : Bool}
  {transform : Transform Pattern}

/-- The sides of a checked transform between templates: the right-hand one is
derived from the left-hand one, and names its placeholders equally often. -/
theorem ofTemplates_eq_ok (made : ofTemplates true left right bindings verbose = .ok transform) :
    Pattern.parse left bindings = .ok transform.left ∧
      transform.left.derive right = .ok transform.right ∧
      forall name,
        transform.left.template.names.count name = transform.right.template.names.count name := by
  rcases Except.bind_eq_ok_iff.mp made with ⟨leftPattern, parsed, afterLeft⟩
  rcases Except.bind_eq_ok_iff.mp afterLeft with ⟨rightPattern, derives, checks⟩
  rw [if_pos rfl, check] at checks
  split at checks
  · rename_i same
    cases checks
    refine ⟨Except.mapError_eq_ok_iff.mp parsed,
      Except.mapError_eq_ok_iff.mp (Except.mapError_eq_ok_iff.mp derives), fun name => ?_⟩
    have counts := Binding.sameNames_iff_count.mp same name
    rw [Pattern.names_bindings, Pattern.names_bindings] at counts
    exact counts
  · cases checks

/-- A placeholder of the right-hand side has the expression that it has on the
left. -/
theorem rules_eq (made : ofTemplates true left right bindings verbose = .ok transform)
    {name : String} (member : name ∈ transform.right.template.names) :
    transform.left.rules.expression? name = transform.right.rules.expression? name :=
  (Pattern.expression?_of_derive (ofTemplates_eq_ok made).2.1 member).symm

theorem isRegular_right (made : ofTemplates true left right bindings verbose = .ok transform)
    (regular : transform.left.IsRegular) : transform.right.IsRegular := by
  intro name member
  have onLeft : name ∈ transform.left.template.names := by
    apply List.count_pos_iff.mp
    rw [(ofTemplates_eq_ok made).2.2]
    exact List.count_pos_iff.mpr member
  exact Pattern.hasRegularRule_congr (rules_eq made member) (regular name onLeft)

/-- What the left-hand side binds explains what the right-hand side writes,
once it is listed in the order in which the right-hand side names it. -/
theorem explains_of_apply (made : ofTemplates true left right bindings verbose = .ok transform)
    {bound rearranged : List (Binding String)} {before after : String}
    (explained : transform.left.Explains bound before)
    (written : transform.right.apply bound = .ok after)
    (named : Binding.names rearranged = transform.right.template.names)
    (values : forall name, Binding.valuesOf rearranged name = Binding.valuesOf bound name) :
    transform.right.Explains rearranged after := by
  have accepted : forall binding, binding ∈ rearranged ->
      Matcher.Accepts transform.right.rules.expression? binding.name binding.value := by
    intro binding member
    have onLeft : binding ∈ bound := by
      apply Binding.mem_valuesOf_iff.mp
      rw [← values]
      exact Binding.mem_valuesOf_iff.mpr member
    have amongNames : binding.name ∈ transform.right.template.names :=
      named ▸ List.mem_map_of_mem member
    exact Pattern.accepts_congr (rules_eq made amongNames) (explained.accepted binding onLeft)
  rcases Pattern.exists_apply_of_accepted named accepted with ⟨text, writes, explains⟩
  rw [transform.right.apply_congr values, written] at writes
  cases writes
  exact explains

/-- If nothing but the values bound on the left explains the text that a
checked transform writes, then the reverse writes the text that was
matched. -/
theorem reverse_apply_of_apply
    (made : ofTemplates true left right bindings verbose = .ok transform)
    {leftMatcher rightMatcher : Matcher} (leftCompiles : transform.left.compile = .ok leftMatcher)
    (rightCompiles : transform.right.compile = .ok rightMatcher)
    (regular : transform.left.IsRegular) {before after : String}
    (applied : transform.apply before = .ok after)
    (unique : forall first second, transform.right.Explains first after ->
      transform.right.Explains second after -> first = second) :
    transform.reverse.apply after = .ok before := by
  rcases ofTemplates_eq_ok made with ⟨parsed, derives, counts⟩
  have leftCoherent := (Pattern.isConsistent_of_parse parsed).coherent
  have rightCoherent := (Pattern.isConsistent_of_derive derives).coherent
  have rightRegular := isRegular_right made regular
  rcases Except.bind_eq_ok_iff.mp applied with ⟨bound, matched, written⟩
  have explained := Pattern.explains_of_matchWhole leftCoherent leftCompiles regular matched
  have restored : transform.left.apply bound = .ok before := by
    rcases Pattern.restores_of_matchWhole leftCoherent leftCompiles before with
      noMatch | ⟨found, foundMatched, restores⟩
    · cases noMatch.symm.trans matched
    · cases foundMatched.symm.trans matched
      rw [← String.ofList_toList (s := before)]
      exact restores.2
  have sameCounts : forall name,
      transform.right.template.names.count name = (Binding.names bound).count name := by
    intro name
    rw [explained.names, counts]
  rcases Binding.exists_rearranged sameCounts with ⟨rearranged, named, values⟩
  have explains := explains_of_apply made explained written named values
  rcases Pattern.exists_matchWhole_of_explains rightCoherent rightCompiles rightRegular explains with
    ⟨found, foundMatched⟩
  have same : found = rearranged := unique found rearranged
    (Pattern.explains_of_matchWhole rightCoherent rightCompiles rightRegular foundMatched) explains
  rw [same] at foundMatched
  apply Except.bind_eq_ok_iff.mpr
  exact ⟨rearranged, foundMatched, (transform.left.apply_congr values).trans restored⟩

/-! ## Texts with one explanation -/

/-- Values of the same lengths that write the same text are the same: each of
them is cut out at its own place. -/
theorem eq_of_written_eq (last : String) {pieces : List (String × String)}
    {first second : List (List Char)} (firstLength : first.length = pieces.length)
    (sameLengths : first.map List.length = second.map List.length)
    (same : Fragment.written (Template.fragments ⟨pieces, last⟩) first =
      Fragment.written (Template.fragments ⟨pieces, last⟩) second) : first = second := by
  induction pieces generalizing first second with
  | nil =>
      cases List.eq_nil_of_length_eq_zero firstLength
      exact (List.map_eq_nil_iff.mp sameLengths.symm).symm
  | cons piece rest inductiveHypothesis =>
      rcases piece with ⟨literal, name⟩
      cases first with
      | nil => cases firstLength
      | cons value others =>
          cases second with
          | nil => cases sameLengths
          | cons otherValue otherOthers =>
              injection sameLengths with sameLength sameRest
              rw [Template.fragments_cons, Fragment.written, Fragment.written, Fragment.written,
                Fragment.written] at same
              rcases List.append_inj (List.append_cancel_left same) sameLength with ⟨rfl, later⟩
              rw [inductiveHypothesis (Nat.succ.inj firstLength) sameRest later]

/-- If every placeholder accepts texts of one character only, a text has at
most one explanation. -/
theorem explains_unique {pattern : Pattern}
    (single : forall name value, name ∈ pattern.template.names ->
      Matcher.Accepts pattern.rules.expression? name value -> value.toList.length = 1)
    {text : String} {first second : List (Binding String)} (firstExplains : pattern.Explains first text)
    (secondExplains : pattern.Explains second text) : first = second := by
  have lengths : forall {bindings : List (Binding String)}, pattern.Explains bindings text ->
      (bindings.map fun binding => binding.value.toList).map List.length =
        pattern.template.names.map fun _ => 1 := by
    intro bindings explains
    rw [← explains.names, Binding.names, List.map_map, List.map_map]
    refine List.map_congr_left fun binding member => ?_
    have amongNames : binding.name ∈ pattern.template.names :=
      explains.names ▸ List.mem_map_of_mem member
    exact single binding.name binding.value amongNames (explains.accepted binding member)
  have firstLength : (first.map fun binding => binding.value.toList).length =
      pattern.template.pieces.length := by
    have namesLength := congrArg List.length firstExplains.names
    rw [Binding.names, Template.names, List.length_map, List.length_map] at namesLength
    rw [List.length_map, namesLength]
  have values := eq_of_written_eq pattern.template.last firstLength
    ((lengths firstExplains).trans (lengths secondExplains).symm)
    (firstExplains.written.symm.trans secondExplains.written)
  have texts : first.map Binding.value = second.map Binding.value := by
    have asTexts := congrArg (List.map String.ofList) values
    simp only [List.map_map, Function.comp_def, String.ofList_toList] at asTexts
    exact asTexts
  rw [← Binding.zipWith_names_values first, ← Binding.zipWith_names_values second,
    firstExplains.names, secondExplains.names, texts]

/-- A placeholder whose isolated expression is a single character, class or
dot accepts texts of one character only. -/
theorem length_of_accepts_leaf {rules : String -> Option String} {name : String}
    (leaf : (Matcher.isolatedRule rules name).toOption.all (fun isolated =>
      (Regex.compile isolated).toOption.all fun regex =>
        regex.body.isRegular && regex.body.isLeaf) = true)
    {value : String} (accepts : Matcher.Accepts rules name value) : value.toList.length = 1 := by
  rcases accepts with ⟨isolated, regex, ruled, compiled, matched⟩
  rw [ruled, Except.toOption, Option.all_some, compiled, Except.toOption, Option.all_some,
    Bool.and_eq_true] at leaf
  have word := (Regex.isSome_matchWhole?_iff_mem leaf.1 _).mp matched
  have admitted : forall {admits : Nat -> Bool},
      value.toList ∈ Regex.Expr.admitted admits -> value.toList.length = 1 := by
    rintro admits ⟨character, same, _⟩
    exact congrArg List.length same
  cases body : regex.body <;> rw [body] at leaf word
  case literal => exact admitted word
  case any => exact admitted word
  case set => exact admitted word
  all_goals cases leaf.2
  all_goals cases leaf.1

/-- A transform that repeats a placeholder and lists the placeholders in
another order. -/
def permutedExample : Transform Pattern where
  left := ⟨"${x}-${y}-${x}", ⟨[("", "x"), ("-", "y"), ("-", "x")], ""⟩,
    ⟨[("x", some "[ab]"), ("y", some "([c-e])")]⟩, none⟩
  right := ⟨"${y}${x}${x}", ⟨[("", "y"), ("", "x"), ("", "x")], ""⟩,
    ⟨[("y", some "([c-e])"), ("x", some "[ab]")]⟩, none⟩
  verbose := false
  checked := true

theorem reverse_apply_of_apply_permutedExample :
    ofTemplates true "${x}-${y}-${x}" "${y}${x}${x}"
        [⟨"x", some "[ab]"⟩, ⟨"y", some "([c-e])"⟩] false = .ok permutedExample ∧
      permutedExample.apply "a-c-b" = .ok "cab" ∧
      permutedExample.reverse.apply "cab" = .ok "a-c-b" := by
  have leftNames : forall name, name ∈ permutedExample.left.template.names ->
      name = "x" ∨ name = "y" := by
    decide +kernel
  have rightNames : forall name, name ∈ permutedExample.right.template.names ->
      name = "x" ∨ name = "y" := by
    decide +kernel
  have regular : permutedExample.left.IsRegular := by
    intro name member
    rcases leftNames name member with rfl | rfl
    · exact Matcher.hasRegularRule_of_all (by decide +kernel)
    · exact Matcher.hasRegularRule_of_all (by decide +kernel)
  have single : forall name value, name ∈ permutedExample.right.template.names ->
      Matcher.Accepts permutedExample.right.rules.expression? name value ->
        value.toList.length = 1 := by
    intro name value member accepts
    rcases rightNames name member with rfl | rfl
    · exact length_of_accepts_leaf (by decide +kernel) accepts
    · exact length_of_accepts_leaf (by decide +kernel) accepts
  have made : (ofTemplates true "${x}-${y}-${x}" "${y}${x}${x}"
      [⟨"x", some "[ab]"⟩, ⟨"y", some "([c-e])"⟩] false).toOption = some permutedExample := by
    decide +kernel
  have applied : (permutedExample.apply "a-c-b").toOption = some "cab" := by
    decide +kernel
  have leftCompiles : permutedExample.left.compile.toOption.isSome = true := by decide +kernel
  have rightCompiles : permutedExample.right.compile.toOption.isSome = true := by decide +kernel
  rcases Except.exists_ok_of_isSome leftCompiles with ⟨leftMatcher, left⟩
  rcases Except.exists_ok_of_isSome rightCompiles with ⟨rightMatcher, right⟩
  rw [Except.toOption_eq_some_iff] at made applied
  exact ⟨made, applied, reverse_apply_of_apply made left right regular applied
    fun _ _ => explains_unique single⟩

end Transform
end Stencil

import Stencil.Proofs.Binding.Tallying
import Stencil.Proofs.Workspace.Ledger

namespace Stencil

/-!
How patterns are made.  A pattern is made for a template whose names it gives
expressions.  If it is parsed, each name has the last expression that the
bindings give it; if it is derived, each has the expression that it has in
another pattern.  Either can be made exactly if no name is unknown: those that
are bound have to be names of the template, and the names of the template have
to be names of the pattern it is derived from.

What can be derived from a derived pattern can be derived from the first one
as well, with the same result, and a pattern gives itself for its own text.
-/

namespace Rules

variable {rules : Rules} {names : List String} {name : String}
  {expression other : String -> Option String}

theorem has_iff : rules.has name = true ↔ name ∈ rules.names :=
  List.contains_iff_mem

theorem names_ofNames : (ofNames names expression).names = names.eraseDups := by
  simp only [Rules.names, ofNames, List.map_map, Function.comp_def, List.map_id']

theorem nodup_of_keys (keys : rules.names = names.eraseDups) : rules.names.Nodup := by
  rw [keys]
  exact Pattern.nodup_eraseDups names

theorem ofNames_congr (same : forall name, name ∈ names -> expression name = other name) :
    ofNames names expression = ofNames names other := by
  apply congrArg Rules.mk
  apply List.map_congr_left
  intro name member
  rw [same name (List.mem_eraseDups.mp member)]

theorem rebindAll_cons (binding : Binding (Option String))
    (rest : List (Binding (Option String))) :
    rules.rebindAll (binding :: rest) = (rules.rebind binding.name binding.value).rebindAll rest :=
  rfl

theorem names_rebindAll {bindings : List (Binding (Option String))} :
    (rules.rebindAll bindings).names = rules.names := by
  induction bindings generalizing rules with
  | nil => rfl
  | cons binding rest inductiveHypothesis =>
      rw [rebindAll_cons, inductiveHypothesis, names_rebind]

theorem expression?_ofNames (member : name ∈ names) :
    (ofNames names expression).expression? name = expression name := by
  have entered : (name, expression name) ∈ (ofNames names expression).entries :=
    List.mem_map_of_mem (List.mem_eraseDups.mpr member)
  rw [expression?, lookup_of_mem (nodup_of_keys names_ofNames) entered, Option.join_some]

/-- If a name is always bound to the same expression then that is the last
one, too. -/
theorem lastBound_map (member : name ∈ names) :
    lastBound (names.map fun name => ⟨name, expression name⟩) name = expression name := by
  have values : Binding.valuesOf (names.map fun name =>
      (⟨name, expression name⟩ : Binding (Option String))) name =
        List.replicate (names.count name) (expression name) := by
    rw [← List.map_replicate, ← List.filter_beq]
    simp only [Binding.valuesOf, List.filter_map, List.map_map, Function.comp_def]
  have occurs : names.count name ≠ 0 := by
    simpa only [ne_eq, List.count_eq_zero, not_not] using member
  rw [lastBound, values, List.getLast?_replicate, if_neg occurs, Option.getD_some]

/-- A table is made again from its names and what it gives them.  Its entries
are in the order in which the names are first met. -/
theorem ofNames_expression? (keys : rules.names = names.eraseDups) :
    ofNames names rules.expression? = rules := by
  have distinct := nodup_of_keys keys
  apply congrArg Rules.mk
  rw [← keys, Rules.names, List.map_map]
  refine (List.map_congr_left fun entry member => ?_).trans (List.map_id rules.entries)
  simp only [Function.comp_apply, expression?, lookup_of_mem distinct member, Option.join_some, id_eq]

end Rules

namespace Pattern

variable {pattern derived middle last : Pattern} {text other name : String} {template : Template}
  {bindings : List (Binding (Option String))} {expression : String -> Option String}

theorem names_ofTemplate : (ofTemplate text template expression).names = template.distinctNames :=
  Rules.names_ofNames

theorem mem_names_ofTemplate_iff :
    name ∈ (ofTemplate text template expression).names ↔ name ∈ template.names := by
  rw [names_ofTemplate, Template.distinctNames, List.mem_eraseDups]

/-! ## Parsing -/

theorem rebind_eq_ok_iff {rebound : Pattern} {value : Option String} :
    pattern.rebind name value = .ok rebound ↔
      name ∈ pattern.names ∧
        rebound = { pattern with rules := pattern.rules.rebind name value, matcher := none } := by
  rw [rebind, Pattern.names, ← Rules.has_iff]
  by_cases known : pattern.rules.has name = true
  · rw [if_pos known, Except.ok.injEq]
    exact ⟨fun same => ⟨known, same.symm⟩, fun both => both.2.symm⟩
  · rw [if_neg known]
    constructor
    · intro fails
      cases fails
    · exact fun both => absurd both.1 known

theorem rebind_eq_error_iff {failure : Failure} {value : Option String} :
    pattern.rebind name value = .error failure ↔
      name ∉ pattern.names ∧ failure = .unknownPlaceholder name := by
  rw [rebind, Pattern.names, ← Rules.has_iff]
  by_cases known : pattern.rules.has name = true
  · rw [if_pos known]
    constructor
    · intro done
      cases done
    · exact fun both => absurd known both.1
  · rw [if_neg known, Except.error.injEq]
    exact ⟨fun same => ⟨known, same.symm⟩, fun both => both.2.symm⟩

/-- Binding several placeholders of a pattern without a matcher succeeds
exactly if all of them are known, and then changes only the rules. -/
theorem rebindAll_eq_ok_iff {rebound : Pattern} (unmatched : pattern.matcher = none) :
    pattern.rebindAll bindings = .ok rebound ↔
      (forall name, name ∈ Binding.names bindings -> name ∈ pattern.names) ∧
        rebound = { pattern with rules := pattern.rules.rebindAll bindings } := by
  induction bindings generalizing pattern with
  | nil =>
      have kept : pattern.rebindAll [] = .ok pattern := rfl
      rw [kept, Except.ok.injEq]
      exact ⟨fun same => ⟨nofun, same.symm⟩, fun both => both.2.symm⟩
  | cons binding rest inductiveHypothesis =>
      have first : pattern.rebindAll (binding :: rest) =
          pattern.rebind binding.name binding.value >>= fun next => next.rebindAll rest :=
        List.foldlM_cons
      have names : Binding.names (binding :: rest) = binding.name :: Binding.names rest := rfl
      rw [first, Except.bind_eq_ok_iff, names, List.forall_mem_cons, Rules.rebindAll_cons]
      simp only [rebind_eq_ok_iff]
      constructor
      · rintro ⟨_, ⟨known, rfl⟩, others⟩
        rcases (inductiveHypothesis rfl).mp others with ⟨knownOthers, rfl⟩
        refine ⟨⟨known, fun name among => ?_⟩, ?_⟩
        · rw [Pattern.names, ← Rules.names_rebind]
          exact knownOthers name among
        · rw [unmatched]
      · rintro ⟨⟨known, knownOthers⟩, rfl⟩
        refine ⟨_, ⟨known, rfl⟩, (inductiveHypothesis rfl).mpr ⟨fun name among => ?_, ?_⟩⟩
        · rw [Pattern.names, Rules.names_rebind]
          exact knownOthers name among
        · rw [unmatched]

/-- A pattern is parsed if every name that is bound is one of the template;
each name then has the last expression that it was given. -/
theorem parse_eq_ok_iff :
    parse text bindings = .ok pattern ↔
      ∃ template, Template.parse text = .ok template ∧
        (forall name, name ∈ Binding.names bindings -> name ∈ template.names) ∧
          pattern = ofTemplate text template (Rules.lastBound bindings) := by
  have made (template : Template) :
      { ofTemplate text template (fun _ => none) with
        rules := (ofTemplate text template fun _ => none).rules.rebindAll bindings } =
          ofTemplate text template (Rules.lastBound bindings) :=
    congrArg (Pattern.mk text template · none)
      (Rules.rebindAll_ofNames template.names (fun _ => none) bindings)
  rw [parse, Except.bind_eq_ok_iff]
  apply exists_congr
  intro template
  rw [rebindAll_eq_ok_iff rfl, made, templateOf, Except.mapError_eq_ok_iff]
  simp only [mem_names_ofTemplate_iff]

/-! ## Deriving -/

theorem derive_of_parse (read : Template.parse text = .ok template) :
    pattern.derive text =
      match template.names.find? fun name => !pattern.rules.has name with
      | some name => .error (.unknownPlaceholder name)
      | none => .ok (ofTemplate text template pattern.rules.expression?) := by
  rw [derive, templateOf, read]
  rfl

/-- A pattern is derived if every name of the template is one of the pattern;
each name keeps its expression. -/
theorem derive_eq_ok_iff :
    pattern.derive text = .ok derived ↔
      ∃ template, Template.parse text = .ok template ∧
        (forall name, name ∈ template.names -> name ∈ pattern.names) ∧
          derived = ofTemplate text template pattern.rules.expression? := by
  cases read : Template.parse text with
  | error fault =>
      rw [derive, templateOf, read]
      exact ⟨nofun, nofun⟩
  | ok template =>
      rw [derive_of_parse read]
      simp only [Except.ok.injEq, exists_eq_left']
      cases unknown : template.names.find? fun name => !pattern.rules.has name with
      | some name =>
          have missing := List.find?_some unknown
          have member := List.mem_of_find?_eq_some unknown
          rw [Bool.not_eq_true', ← Bool.not_eq_true, Rules.has_iff] at missing
          exact ⟨nofun, fun both => absurd (both.1 name member) missing⟩
      | none =>
          rw [Except.ok.injEq]
          refine ⟨fun same => ⟨fun name member => ?_, same.symm⟩, fun both => both.2.symm⟩
          have known := List.find?_eq_none.mp unknown name member
          rw [Bool.not_eq_true, Bool.not_eq_false', Rules.has_iff] at known
          exact known

/-- Otherwise the text is no template, or the first of its names that is
unknown is told. -/
theorem derive_eq_error_iff {failure : Failure} :
    pattern.derive text = .error failure ↔
      (∃ error, Template.parse text = .error error ∧ failure = .template error none) ∨
      ∃ template front name back, Template.parse text = .ok template ∧
        template.names = front ++ name :: back ∧
          (forall other, other ∈ front -> other ∈ pattern.names) ∧ name ∉ pattern.names ∧
            failure = .unknownPlaceholder name := by
  cases read : Template.parse text with
  | error fault =>
      have fails : pattern.derive text = .error (.template fault none) := by
        rw [derive, templateOf, read]
        rfl
      rw [fails, Except.error.injEq]
      constructor
      · rintro rfl
        exact .inl ⟨fault, rfl, rfl⟩
      · rintro (⟨_, same, rfl⟩ | ⟨_, _, _, _, impossible, _⟩)
        · cases same
          rfl
        · cases impossible
  | ok template =>
      have unknown_iff (name : String) :
          (template.names.find? fun name => !pattern.rules.has name) = some name ↔
            name ∉ pattern.names ∧ ∃ front back, template.names = front ++ name :: back ∧
              forall other, other ∈ front -> other ∈ pattern.names := by
        rw [List.find?_eq_some_iff_append, Bool.not_eq_true', ← Bool.not_eq_true, Rules.has_iff]
        simp only [Bool.not_not, Rules.has_iff]
        rfl
      rw [derive_of_parse read]
      constructor
      · intro fails
        split at fails
        · rename_i name unknown
          cases fails
          rcases (unknown_iff name).mp unknown with ⟨missing, front, back, written, known⟩
          exact .inr ⟨template, front, name, back, rfl, written, known, missing, rfl⟩
        · cases fails
      · rintro (⟨_, impossible, _⟩ | ⟨_, front, name, back, same, written, known, missing, rfl⟩)
        · cases impossible
        · cases same
          rw [(unknown_iff name).mpr ⟨missing, front, back, written, known⟩]

/-- What is derived is what would be parsed if the template's placeholders
were bound, one occurrence after the other, to the expressions that they
have. -/
theorem parse_of_derive (read : Template.parse text = .ok template)
    (derives : pattern.derive text = .ok derived) :
    parse text (template.names.map fun name => ⟨name, pattern.rules.expression? name⟩) =
      .ok derived := by
  rcases derive_eq_ok_iff.mp derives with ⟨_, same, _, rfl⟩
  cases read.symm.trans same
  apply parse_eq_ok_iff.mpr
  refine ⟨template, read, fun name bound => ?_, ?_⟩
  · simpa only [Binding.names, List.map_map, Function.comp_def, List.map_id'] using bound
  · apply congrArg (Pattern.mk text template · none)
    apply Rules.ofNames_congr
    exact fun name member => (Rules.lastBound_map member).symm

/-- Deriving twice is deriving once: the pattern in between only passes the
expressions on. -/
theorem derive_derive (first : pattern.derive text = .ok middle)
    (second : middle.derive other = .ok last) : pattern.derive other = .ok last := by
  rcases derive_eq_ok_iff.mp first with ⟨template, _, known, rfl⟩
  rcases derive_eq_ok_iff.mp second with ⟨otherTemplate, read, knownMiddle, rfl⟩
  have among (name : String) (member : name ∈ otherTemplate.names) : name ∈ template.names :=
    mem_names_ofTemplate_iff.mp (knownMiddle name member)
  apply derive_eq_ok_iff.mpr
  refine ⟨otherTemplate, read, fun name member => known name (among name member), ?_⟩
  apply congrArg (Pattern.mk other otherTemplate · none)
  apply Rules.ofNames_congr
  exact fun name member => Rules.expression?_ofNames (among name member)

/-- A pattern gives itself for its own text, but for the matcher, which it
does not hand on. -/
theorem derive_text (parsed : Template.parse pattern.text = .ok pattern.template)
    (keys : pattern.names = pattern.template.distinctNames) :
    pattern.derive pattern.text = .ok pattern.fresh := by
  apply derive_eq_ok_iff.mpr
  refine ⟨pattern.template, parsed, fun name member => ?_, ?_⟩
  · rw [keys, Template.distinctNames, List.mem_eraseDups]
    exact member
  · rw [ofTemplate, Rules.ofNames_expression? keys]
    rfl

end Pattern
end Stencil

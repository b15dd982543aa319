import Mathlib.Data.List.Nodup
import Stencil.Pattern.Basic
import Stencil.Proofs.Outcome

namespace Stencil

/-!
Patterns and their matchers.  A pattern in use holds the template that its
text says, one rule for each of the template's names, and either no matcher or
the one that its rules give.  Such a pattern is what parsing its own text and
binding its own rules gives, but for the matcher.

The main statement is `Pattern.parse_bindings`.
-/

namespace Rules

def bindings (rules : Rules) : List (Binding (Option String)) :=
  rules.entries.map fun (name, expression) => ⟨name, expression⟩

end Rules

namespace Pattern

/-- A matcher that is kept is the one that would be made anew from the present
rules. -/
def IsCoherent (pattern : Pattern) : Prop :=
  forall matcher, pattern.matcher = some matcher ->
    Matcher.ofFragments pattern.rules.expression? pattern.fragments = .ok matcher

/-- Compiling gives the matcher for the present rules, whether or not one has
been kept. -/
theorem compile_of_isCoherent {pattern : Pattern} (coherent : pattern.IsCoherent) :
    pattern.compile = Matcher.ofFragments pattern.rules.expression? pattern.fragments := by
  unfold compile
  split
  · rename_i matcher kept
    exact (coherent matcher kept).symm
  · rfl

/-- The pattern is one that parsing, deriving, rebinding and compiling can
give: its rules are for the names in its text, and a matcher that it keeps is
the one for these rules. -/
structure IsConsistent (pattern : Pattern) : Prop where
  parsed : templateOf pattern.text = .ok pattern.template
  names : pattern.rules.names = pattern.template.distinctNames
  coherent : pattern.IsCoherent

/-- The pattern as it is before anything has been compiled.  It differs from
the pattern in nothing but the matcher. -/
def fresh (pattern : Pattern) : Pattern :=
  { pattern with matcher := none }

theorem isConsistent_ofTemplate {text : String} {template : Template}
    (parsed : templateOf text = .ok template) (expression : String -> Option String) :
    (ofTemplate text template expression).IsConsistent where
  parsed := parsed
  names := by
    simp [ofTemplate, Rules.names, Rules.ofNames, Template.distinctNames, Function.comp_def]
  coherent := nofun

theorem isConsistent_blank : blank.IsConsistent :=
  isConsistent_ofTemplate rfl _

theorem rebind_eq_ok {pattern rebound : Pattern} {name : String} {expression : Option String}
    (done : pattern.rebind name expression = .ok rebound) :
    rebound = { pattern with rules := pattern.rules.rebind name expression, matcher := none } := by
  unfold rebind at done
  split at done
  · cases done
    rfl
  · cases done

/-- Rebinding discards the matcher, and so cannot leave one that belongs to
other rules. -/
theorem IsConsistent.rebind {pattern rebound : Pattern} (consistent : pattern.IsConsistent)
    {name : String} {expression : Option String}
    (done : pattern.rebind name expression = .ok rebound) : rebound.IsConsistent := by
  obtain rfl := rebind_eq_ok done
  exact ⟨consistent.parsed, (pattern.rules.names_rebind name expression).trans consistent.names,
    nofun⟩

theorem IsConsistent.rebindAll {pattern rebound : Pattern} (consistent : pattern.IsConsistent)
    {bindings : List (Binding (Option String))} (done : pattern.rebindAll bindings = .ok rebound) :
    rebound.IsConsistent := by
  unfold Pattern.rebindAll at done
  induction bindings generalizing pattern with
  | nil =>
      cases done
      exact consistent
  | cons binding rest inductiveHypothesis =>
      rw [List.foldlM_cons] at done
      obtain ⟨middle, first, others⟩ := Except.bind_eq_ok_iff.mp done
      exact inductiveHypothesis (consistent.rebind first) others

theorem isConsistent_of_parse {text : String} {bindings : List (Binding (Option String))}
    {pattern : Pattern} (done : parse text bindings = .ok pattern) : pattern.IsConsistent := by
  obtain ⟨template, parsed, rest⟩ := Except.bind_eq_ok_iff.mp done
  exact (isConsistent_ofTemplate parsed _).rebindAll rest

theorem isConsistent_of_derive {pattern derived : Pattern} {text : String}
    (done : pattern.derive text = .ok derived) : derived.IsConsistent := by
  obtain ⟨template, parsed, rest⟩ := Except.bind_eq_ok_iff.mp done
  split at rest
  · cases rest
  · cases rest
    exact isConsistent_ofTemplate parsed _

theorem IsConsistent.compiled {pattern : Pattern} (consistent : pattern.IsConsistent) :
    pattern.compiled.IsConsistent := by
  unfold Pattern.compiled
  split
  · rename_i matcher made
    refine ⟨consistent.parsed, consistent.names, fun kept same => ?_⟩
    cases same
    exact compile_of_isCoherent consistent.coherent ▸ made
  · exact consistent

theorem compile_fresh {pattern : Pattern} (coherent : pattern.IsCoherent) :
    pattern.fresh.compile = pattern.compile :=
  (compile_of_isCoherent coherent).symm

/-- Compiling leaves no trace of whether there was a matcher before.  What
cannot be compiled keeps none. -/
theorem compiled_fresh {pattern : Pattern} (coherent : pattern.IsCoherent) :
    pattern.fresh.compiled = pattern.compiled := by
  unfold Pattern.compiled
  rw [compile_fresh coherent]
  cases made : pattern.compile with
  | ok matcher => rfl
  | error failure =>
      cases kept : pattern.matcher with
      | none => exact congrArg (fun matcher => { pattern with matcher }) kept.symm
      | some matcher =>
          unfold compile at made
          rw [kept] at made
          cases made

/-! ## Parsing the same again -/

theorem nodup_eraseDups (names : List String) : names.eraseDups.Nodup := by
  match names with
  | [] => exact .nil
  | name :: rest =>
      rw [List.eraseDups_cons]
      refine List.nodup_cons.mpr ⟨fun member => ?_, nodup_eraseDups _⟩
      simpa using (List.mem_filter.mp (List.mem_eraseDups.mp member)).2
termination_by names.length
decreasing_by exact Nat.lt_succ_of_le (List.length_filter_le _ _)

theorem rebind_entries_of_not_mem {name : String} {entries : List (String × Option String)}
    (absent : name ∉ entries.map Prod.fst) (expression : Option String) :
    (Rules.rebind ⟨entries⟩ name expression).entries = entries := by
  refine (List.map_congr_left fun entry member => ?_).trans (List.map_id entries)
  have different : entry.1 ≠ name := by
    rintro rfl
    exact absent (List.mem_map_of_mem member)
  exact congrArg (Prod.mk entry.1) (if_neg different)

/-- Binding the rest of a table, of which the front has been bound. -/
theorem rebindAll_entries {pattern : Pattern} (front back : List (String × Option String))
    (distinct : ((front ++ back).map Prod.fst).Nodup)
    (entries : pattern.rules.entries = front ++ back.map fun entry => (entry.1, none))
    (unmatched : pattern.matcher = none) :
    pattern.rebindAll (Rules.bindings ⟨back⟩) =
      .ok { pattern with rules := ⟨front ++ back⟩ } := by
  induction back generalizing pattern front with
  | nil =>
      obtain ⟨text, template, ⟨held⟩, matcher⟩ := pattern
      dsimp only at entries
      rw [entries]
      rfl
  | cons entry rest inductiveHypothesis =>
      obtain ⟨text, template, ⟨held⟩, matcher⟩ := pattern
      obtain ⟨name, expression⟩ := entry
      dsimp only at entries unmatched
      obtain rfl := entries
      obtain rfl := unmatched
      rw [List.map_append, List.map_cons, List.nodup_middle, ← List.map_append] at distinct
      obtain ⟨absent, others⟩ := List.nodup_cons.mp distinct
      rw [List.map_append, List.mem_append, not_or] at absent
      have restAbsent : name ∉ (rest.map fun entry => (entry.1, (none : Option String))).map
          Prod.fst := by
        rw [List.map_map]
        exact absent.2
      let next : Rules := ⟨(front ++ [(name, expression)]) ++
        rest.map fun entry => (entry.1, none)⟩
      have rebound : Rules.rebind
          ⟨front ++ (name, none) :: rest.map fun entry => (entry.1, none)⟩ name expression =
          next := by
        have frontKept := rebind_entries_of_not_mem absent.1 expression
        have restKept := rebind_entries_of_not_mem restAbsent expression
        simp only [Rules.rebind] at frontKept restKept
        simp only [Rules.rebind, next, List.map_append, List.map_cons, frontKept, restKept,
          if_true, List.append_assoc, List.singleton_append]
      have has : Rules.has ⟨front ++ (name, none) :: rest.map fun entry => (entry.1, none)⟩ name =
          true := by
        simp [Rules.has, Rules.names]
      have step : Pattern.rebind
          ⟨text, template, ⟨front ++ (name, none) :: rest.map fun entry => (entry.1, none)⟩, none⟩
          name expression = .ok ⟨text, template, next, none⟩ := by
        rw [Pattern.rebind, if_pos has, rebound]
      have nextDistinct : (((front ++ [(name, expression)]) ++ rest).map Prod.fst).Nodup := by
        rw [List.append_assoc, List.singleton_append, List.map_append, List.map_cons,
          List.nodup_middle, ← List.map_append]
        exact distinct
      have further := inductiveHypothesis (front ++ [(name, expression)]) nextDistinct
        (show (Pattern.mk text template next none).rules.entries = _ from rfl) rfl
      rw [List.append_assoc, List.singleton_append] at further
      unfold Pattern.rebindAll at further ⊢
      exact Except.bind_eq_ok_iff.mpr ⟨_, step, further⟩

/-- Parsing the text of a pattern and binding its rules gives the pattern as
it is before anything has been compiled. -/
theorem parse_bindings {pattern : Pattern} (consistent : pattern.IsConsistent) :
    parse pattern.text pattern.rules.bindings = .ok pattern.fresh := by
  have distinct : (pattern.rules.entries.map Prod.fst).Nodup := by
    have names : pattern.rules.entries.map Prod.fst = pattern.template.distinctNames :=
      consistent.names
    rw [names]
    exact nodup_eraseDups _
  have entries : (ofTemplate pattern.text pattern.template fun _ => none).rules.entries =
      [] ++ pattern.rules.entries.map fun entry => (entry.1, none) := by
    have names : pattern.template.names.eraseDups = pattern.rules.entries.map Prod.fst :=
      consistent.names.symm
    simp only [ofTemplate, Rules.ofNames, names, List.map_map, List.nil_append]
    rfl
  exact Except.bind_eq_ok_iff.mpr
    ⟨pattern.template, consistent.parsed, rebindAll_entries [] _ distinct entries rfl⟩

end Pattern
end Stencil

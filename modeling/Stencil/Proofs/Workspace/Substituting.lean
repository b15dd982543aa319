import Stencil.Proofs.Transform.Substituting
import Stencil.Proofs.Workspace.Checking

namespace Stencil
namespace Workspace

/-!
Substitution through a workspace.  Whether the matches of a transform can be
rewritten is settled by the names in its two templates, whatever the text, the
visitor and the rules are.  Either nothing that matches is ever rewritten, and
the failure names the same placeholder each time, before any visit; or
everything that matches is, and a search ends badly only if its visitor gives
up.  No run changes a template, so which of the two it is never changes.

The main statement is `substitution_fails_by_names`.
-/

variable {Memory Item : Type}

/-- The transform fails on whatever matches, because the placeholder `name`
has no value.  Where nothing matches it does what any other transform does. -/
structure Misses (workspace : Workspace) (transform : Transform Place) (name : String) : Prop where
  apply : forall text,
    (((matchWhole transform.left text).run.run workspace).1 = .error .noMatch ∧
      ((applyTransform transform text).run.run workspace).1 = .error .noMatch) ∨
    ∃ bindings, ((matchWhole transform.left text).run.run workspace).1 = .ok bindings ∧
      ((applyTransform transform text).run.run workspace).1 = .error (.missingBinding name)
  replace : forall text, ∃ visits, ((findAll transform.left text).run.run workspace).1 = .ok visits ∧
    ((replace transform text).run.run workspace).1 =
      if visits.isEmpty then .ok text else .error (.missingBinding name)
  /-- The visitor is not called. -/
  search : forall {Memory : Type} (text : String) (visitor : Rewrite -> Guest Memory Verdict)
    (memory : Memory), ∃ visits, ((findAll transform.left text).run.run workspace).1 = .ok visits ∧
      ((searchRewrites transform text visitor).run memory).run workspace =
        ((⟨[], if visits.isEmpty then .ok () else .error (.missingBinding name)⟩, memory),
          after (findAll transform.left text) workspace)

/-- The transform rewrites whatever matches.  What fails nevertheless fails
because nothing matches, or because a visitor has given up. -/
structure Substitutes (workspace : Workspace) (transform : Transform Place) : Prop where
  apply : forall text,
    (((matchWhole transform.left text).run.run workspace).1 = .error .noMatch ∧
      ((applyTransform transform text).run.run workspace).1 = .error .noMatch) ∨
    ∃ bindings written, ((matchWhole transform.left text).run.run workspace).1 = .ok bindings ∧
      ((applyTransform transform text).run.run workspace).1 = .ok written
  replace : forall text, ∃ result, ((replace transform text).run.run workspace).1 = .ok result
  /-- There is a rewrite for every match, and these are what the visitor is shown. -/
  search : forall {Memory : Type} (text : String) (visitor : Rewrite -> Guest Memory Verdict)
    (memory : Memory), ∃ visits rewrites,
      ((findAll transform.left text).run.run workspace).1 = .ok visits ∧
      visits.mapM (workspace.resolve transform).rewrite = .ok rewrites ∧
      Shows visitor memory (after (findAll transform.left text) workspace)
        (.ok (rewrites.map .ok)) (((searchRewrites transform text visitor).run memory).run workspace)
  /-- A search that fails does so because its visitor has given up. -/
  ending : forall {Memory : Type} (text : String) (visitor : Rewrite -> Guest Memory Verdict)
    (memory : Memory) (failure : Failure),
      (((searchRewrites transform text visitor).run memory).run workspace).1.1.ending =
        .error failure ->
      ∃ rewrite before left,
        (((visitor rewrite).run before).run left).1.1 = .giveUp failure

/-! ## What the visitor says -/

/-- Every verdict is one that the visitor gave on one of the items, in a
workspace to which the earlier ones had led. -/
theorem exists_call_of_mem {visitor : Item -> Guest Memory Verdict} {items : List Item}
    {memory : Memory} {workspace : Workspace} {verdict : Verdict}
    (member : verdict ∈ (((items.mapM visitor).run memory).run workspace).1.1) :
    ∃ item before left, (((visitor item).run before).run left).1.1 = verdict := by
  induction items generalizing memory workspace with
  | nil => cases member
  | cons item rest inductiveHypothesis =>
      rw [run_mapM_cons] at member
      rcases List.mem_cons.mp member with rfl | later
      · exact ⟨item, memory, workspace, rfl⟩
      · exact inductiveHypothesis later

/-- If all items can be made, the visiting fails only because the visitor
gives up. -/
theorem Shows.gives_up {visitor : Item -> Guest Memory Verdict} {memory later : Memory}
    {workspace left : Workspace} {items : List Item} {report : Report Item} {failure : Failure}
    (shows : Shows visitor memory workspace (.ok (items.map .ok)) ((report, later), left))
    (fails : report.ending = .error failure) :
    ∃ item before left, (((visitor item).run before).run left).1.1 = .giveUp failure := by
  generalize found : (.ok (items.map .ok) : Outcome (List (Outcome Item))) = made at shows
  cases shows with
  | unfound _ => cases found
  | @found shown rest verdicts ending _ _ called ends =>
      cases fails
      cases ends with
      | unmade _ =>
          have unmade : .error failure ∈ items.map (Except.ok : Item -> Outcome Item) := by
            rw [Except.ok.inj found]
            exact List.mem_append_right _ List.mem_cons_self
          rcases List.mem_map.mp unmade with ⟨_, _, impossible⟩
          cases impossible
      | givenUp _ =>
          apply exists_call_of_mem
          rw [called]
          exact List.mem_concat_self

/-! ## What is done through the workspace -/

section

variable {workspace : Workspace} {transform : Transform Place}

theorem compile_prepare (place : Place) (workspace : Workspace) :
    ((prepare place workspace).pattern place).compile = (workspace.pattern place).compile := by
  by_cases inside : place < workspace.patterns.size
  · rw [pattern_prepare inside]
    cases compiles : (workspace.pattern place).compile with
    | ok matcher => exact compile_compiled compiles
    | error failure =>
        rw [Pattern.compiled, compiles]
        exact compiles
  · have kept : prepare place workspace = workspace := by
      rw [prepare, setPattern, Array.setIfInBounds_eq_of_size_le (Nat.le_of_not_lt inside)]
    rw [kept]

theorem run_matchWhole_eq (place : Place) (text : String) (workspace : Workspace) :
    ((matchWhole place text).run.run workspace).1 = (workspace.pattern place).matchWhole text := by
  rw [run_matchWhole, Pattern.matchWhole, Pattern.matchWhole, compile_prepare]

theorem run_findAll_eq (place : Place) (text : String) (workspace : Workspace) :
    ((findAll place text).run.run workspace).1 = (workspace.pattern place).findAll text := by
  rw [run_findAll, Pattern.findAll, Pattern.findAll, compile_prepare]

theorem rewrite_resolve_prepare (workspace : Workspace) (transform : Transform Place) :
    ((prepare transform.left workspace).resolve transform).rewrite =
      (workspace.resolve transform).rewrite :=
  rewrite_congr (template_prepare transform.left transform.right workspace)

theorem run_applyTransform_eq (transform : Transform Place) (text : String) (workspace : Workspace) :
    ((applyTransform transform text).run.run workspace).1 =
      (workspace.resolve transform).apply text := by
  rw [applyTransform, run_rewriteBy]
  exact congrFun (Transform.apply_congr (compile_prepare transform.left workspace)
    (template_prepare transform.left transform.right workspace)) text

theorem run_replace_eq (transform : Transform Place) (text : String) (workspace : Workspace) :
    ((replace transform text).run.run workspace).1 = (workspace.resolve transform).replace text := by
  rw [replace, run_rewriteBy]
  exact congrFun (Transform.replace_congr (compile_prepare transform.left workspace)
    (rewrite_resolve_prepare workspace transform)) text

/-- A search through a transform visits the rewrites of what is found, made
beforehand. -/
theorem run_searchRewrites_eq (transform : Transform Place) (text : String)
    (visitor : Rewrite -> Guest Memory Verdict) (memory : Memory) (workspace : Workspace) :
    ((searchRewrites transform text visitor).run memory).run workspace =
      ((visitFound visitor (((workspace.pattern transform.left).findAll text).map
        (List.map (workspace.resolve transform).rewrite))).run memory).run
          (after (findAll transform.left text) workspace) := by
  rw [run_searchRewrites, rewrite_resolve_prepare, after, run_findAll, Pattern.findAll,
    Pattern.findAll, compile_prepare]

variable {matcher : Matcher}

theorem misses_of_missing {name : String}
    (coherent : (workspace.pattern transform.left).IsCoherent)
    (compiles : (workspace.pattern transform.left).compile = .ok matcher)
    (missing : (workspace.resolve transform).missing? = some name) :
    Misses workspace transform name := by
  let resolved := workspace.resolve transform
  have leftCoherent : resolved.left.IsCoherent := coherent
  have leftCompiles : resolved.left.compile = .ok matcher := compiles
  have found : forall text, ∃ visits, resolved.left.findAll text = .ok visits ∧
      forall visit, visit ∈ visits -> resolved.rewrite visit = .error (.missingBinding name) := by
    intro text
    rcases Transform.exists_findAll leftCoherent leftCompiles text with ⟨visits, finds, named⟩
    exact ⟨visits, finds, fun visit member => Transform.rewrite_of_missing missing (named visit member)⟩
  constructor
  case apply =>
    intro text
    rw [run_matchWhole_eq, run_applyTransform_eq]
    rcases Transform.apply_eq_or leftCoherent leftCompiles text with
      noMatch | ⟨bindings, matched, named, applied⟩
    · exact .inl noMatch
    · exact .inr ⟨bindings, matched, applied.trans (Transform.apply_right_of_missing missing named)⟩
  case replace =>
    intro text
    rcases found text with ⟨visits, finds, fails⟩
    refine ⟨visits, (run_findAll_eq transform.left text workspace).trans finds, ?_⟩
    rw [run_replace_eq]
    cases visits with
    | nil => exact Transform.replace_of_findAll_nil finds
    | cons first others =>
        exact Transform.replace_of_findAll_cons finds (fails first List.mem_cons_self)
  case search =>
    intro Memory text visitor memory
    rcases found text with ⟨visits, finds, fails⟩
    refine ⟨visits, (run_findAll_eq transform.left text workspace).trans finds, ?_⟩
    have leftFinds : (workspace.pattern transform.left).findAll text = .ok visits := finds
    rw [run_searchRewrites_eq, leftFinds]
    cases visits with
    | nil => rfl
    | cons first others =>
        have firstFails : (workspace.resolve transform).rewrite first =
            .error (.missingBinding name) := fails first List.mem_cons_self
        rw [Except.map, List.map_cons, firstFails]
        rfl

theorem substitutes_of_complete (coherent : (workspace.pattern transform.left).IsCoherent)
    (compiles : (workspace.pattern transform.left).compile = .ok matcher)
    (complete : (workspace.resolve transform).missing? = none) :
    Substitutes workspace transform := by
  let resolved := workspace.resolve transform
  have leftCoherent : resolved.left.IsCoherent := coherent
  have leftCompiles : resolved.left.compile = .ok matcher := compiles
  have found : forall text, ∃ visits rewrites, resolved.left.findAll text = .ok visits ∧
      visits.mapM resolved.rewrite = .ok rewrites := by
    intro text
    rcases Transform.exists_findAll leftCoherent leftCompiles text with ⟨visits, finds, named⟩
    rcases Transform.exists_mapM_rewrite complete named with ⟨rewrites, made⟩
    exact ⟨visits, rewrites, finds, made⟩
  have shown : forall {Memory : Type} (text : String) (visitor : Rewrite -> Guest Memory Verdict)
      (memory : Memory), ∃ visits rewrites,
      ((findAll transform.left text).run.run workspace).1 = .ok visits ∧
      visits.mapM (workspace.resolve transform).rewrite = .ok rewrites ∧
      Shows visitor memory (after (findAll transform.left text) workspace)
        (.ok (rewrites.map .ok))
        (((searchRewrites transform text visitor).run memory).run workspace) := by
    intro Memory text visitor memory
    rcases found text with ⟨visits, rewrites, finds, made⟩
    have leftFinds : (workspace.pattern transform.left).findAll text = .ok visits := finds
    refine ⟨visits, rewrites, (run_findAll_eq transform.left text workspace).trans finds, made, ?_⟩
    have outcomes : rewrites.map .ok = visits.map (workspace.resolve transform).rewrite :=
      Matcher.map_of_mapM_eq_ok (fun _ _ done => done.symm) made
    rw [run_searchRewrites_eq, leftFinds, Except.map, ← outcomes]
    exact shows_visitFound visitor _ memory _
  constructor
  case apply =>
    intro text
    rw [run_matchWhole_eq, run_applyTransform_eq]
    rcases Transform.apply_eq_or leftCoherent leftCompiles text with
      noMatch | ⟨bindings, matched, named, applied⟩
    · exact .inl noMatch
    · rcases Transform.exists_apply_right complete named with ⟨written, filled⟩
      exact .inr ⟨bindings, written, matched, applied.trans filled⟩
  case replace =>
    intro text
    rcases found text with ⟨visits, rewrites, finds, made⟩
    rcases Transform.replaces_of_mapM finds made with ⟨result, done, _⟩
    exact ⟨result, (run_replace_eq transform text workspace).trans done⟩
  case search => exact shown
  case ending =>
    intro Memory text visitor memory failure fails
    rcases shown text visitor memory with ⟨_, _, _, _, shows⟩
    exact shows.gives_up fails

/-- Replacing fails at the first match, if it fails at all: the names that are
missing are missing for every match. -/
theorem replace_eq_error (coherent : (workspace.pattern transform.left).IsCoherent)
    (compiles : (workspace.pattern transform.left).compile = .ok matcher) {text : String}
    {failure : Failure} (fails : ((replace transform text).run.run workspace).1 = .error failure) :
    ∃ first others name,
      ((findAll transform.left text).run.run workspace).1 = .ok (first :: others) ∧
      (workspace.resolve transform).rewrite first = .error failure ∧
      failure = .missingBinding name := by
  cases missing : (workspace.resolve transform).missing? with
  | none =>
      rcases (substitutes_of_complete coherent compiles missing).replace text with ⟨result, done⟩
      cases fails.symm.trans done
  | some name =>
      have leftCoherent : (workspace.resolve transform).left.IsCoherent := coherent
      rcases Transform.exists_findAll leftCoherent compiles text with ⟨visits, finds, named⟩
      rw [run_replace_eq] at fails
      cases visits with
      | nil => cases fails.symm.trans (Transform.replace_of_findAll_nil finds)
      | cons first others =>
          have firstFails := Transform.rewrite_of_missing missing (named first List.mem_cons_self)
          cases fails.symm.trans (Transform.replace_of_findAll_cons finds firstFails)
          exact ⟨first, others, name, (run_findAll_eq transform.left text workspace).trans finds,
            firstFails, rfl⟩

end

/-! ## Transforms whose right-hand side lacks nothing -/

/-- A transform that was made from two templates has no name on the right that
it lacks on the left, whatever has been run since. -/
theorem missing?_of_made {checked : Bool} {left right : String}
    {bindings : List (Binding (Option String))} {verbose : Bool} {before later workspace : Workspace}
    {events : List Event} {transform : Transform Place}
    (done : (transformOfTemplates checked left right bindings verbose).run.run before =
      (.ok transform, later)) (runs : Runs later events workspace) :
    (workspace.resolve transform).missing? = none := by
  cases made : Transform.ofTemplates checked left right bindings verbose with
  | error failure =>
      rw [run_transformOfTemplates_of_error made] at done
      cases done
  | ok resolved =>
      rcases exists_made made before with ⟨places, other, ran, held, leftInside, rightInside⟩
      rw [ran] at done
      cases done
      rcases patterns_of_ofTemplates made with ⟨parsed, derives⟩
      have leftHeld : later.pattern transform.left = resolved.left := congrArg Transform.left held
      have rightHeld : later.pattern transform.right = resolved.right := congrArg Transform.right held
      have leftKept := (runs.template_pattern leftInside).2
      have rightKept := (runs.template_pattern rightInside).2
      rw [leftHeld] at leftKept
      rw [rightHeld] at rightKept
      rw [Transform.missing?_congr leftKept rightKept]
      apply Transform.missing?_eq_none_iff.mpr
      intro name member
      exact Pattern.mem_names_of_derive (Pattern.isConsistent_of_parse parsed) derives member

theorem IsBalanced.missing?_eq_none {transform : Transform Place} {workspace : Workspace}
    (balanced : IsBalanced transform workspace) : (workspace.resolve transform).missing? = none := by
  apply Transform.missing?_eq_none_iff.mpr
  intro name member
  have onRight : 0 < (workspace.pattern transform.right).template.names.count name :=
    List.count_pos_iff.mpr member
  rw [← balanced.counts] at onRight
  exact List.count_pos_iff.mp onRight

/-- Whether a transform can substitute what it matches depends on the names in
its templates, once its left-hand pattern compiles.  If the right-hand
template has a name that the left-hand one lacks, then applying the transform
to a text that matches, and replacing or searching in a text where anything
matches, fail for the first such name, and no visitor is called; if it has
none, they never fail so.  Replacing fails at the first match or not at all.
A transform made from two templates has no such name, and neither has a
checked one or its reverse, whatever has been run since. -/
theorem substitution_fails_by_names {workspace : Workspace} {transform : Transform Place}
    (coherent : (workspace.pattern transform.left).IsCoherent) {matcher : Matcher}
    (compiles : (workspace.pattern transform.left).compile = .ok matcher) :
    (forall name, (workspace.resolve transform).missing? = some name ->
      Misses workspace transform name) ∧
    ((workspace.resolve transform).missing? = none -> Substitutes workspace transform) ∧
    (forall text failure, ((replace transform text).run.run workspace).1 = .error failure ->
      ∃ first others name,
        ((findAll transform.left text).run.run workspace).1 = .ok (first :: others) ∧
        (workspace.resolve transform).rewrite first = .error failure ∧
        failure = .missingBinding name) ∧
    (forall (checked : Bool) (left right : String) (bindings : List (Binding (Option String)))
        (verbose : Bool) (before later : Workspace) (events : List Event),
      (transformOfTemplates checked left right bindings verbose).run.run before =
        (.ok transform, later) ->
      Runs later events workspace -> Substitutes workspace transform) ∧
    (Certified transform workspace -> Substitutes workspace transform) := by
  refine ⟨fun name => misses_of_missing coherent compiles,
    substitutes_of_complete coherent compiles, fun text failure => replace_eq_error coherent compiles,
    ?_, ?_⟩
  · intro checked left right bindings verbose before later events done runs
    exact substitutes_of_complete coherent compiles (missing?_of_made done runs)
  · intro certified
    exact substitutes_of_complete coherent compiles certified.isBalanced.missing?_eq_none

/-- Two patterns, of which the second has a placeholder that the first has
not. -/
def strangeExample : Workspace :=
  after (parse "<${x}${y}>" [⟨"y", some "c"⟩]) (after (parse "${x}" [⟨"x", some "[ab]*"⟩]) .empty)

theorem substitution_fails_by_names_strangeExample :
    (strangeExample.pattern 0).IsCoherent ∧
      ∃ matcher, (strangeExample.pattern 0).compile = .ok matcher ∧
        Misses strangeExample ⟨0, 1, false, false⟩ "y" := by
  have reached : Reaches .empty strangeExample :=
    .trans (.parse _ "${x}" [⟨"x", some "[ab]*"⟩]) (.parse _ "<${x}${y}>" [⟨"y", some "c"⟩])
  have coherent := ((reached.isConsistent isConsistent_empty).pattern 0).coherent
  have compiles : (strangeExample.pattern 0).compile.toOption.isSome = true := by
    decide +kernel
  have missing : (strangeExample.resolve ⟨0, 1, false, false⟩).missing? = some "y" := by
    decide +kernel
  rcases Except.exists_ok_of_isSome compiles with ⟨matcher, compiled⟩
  have settled := @substitution_fails_by_names strangeExample ⟨0, 1, false, false⟩ coherent matcher
    compiled
  exact ⟨coherent, matcher, compiled, settled.1 "y" missing⟩

end Workspace
end Stencil

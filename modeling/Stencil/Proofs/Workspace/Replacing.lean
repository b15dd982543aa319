import Stencil.Proofs.Transform.Checking
import Stencil.Proofs.Transform.Replacing
import Stencil.Proofs.Workspace.Snapshot

namespace Stencil
namespace Workspace

/-!
Replacing through a workspace.  Replacing does what a search would do that
shows all rewrites to a visitor with a draft, who takes over the text up to
each match and writes the rewrite behind it; so its result is the text with
the rewrites made that any other search would have shown, and with everything
else as it was.

The main statement is `replace_makes_rewrites`.
-/

variable {Memory Item Value Other : Type}

/-! ## Searches that show everything -/

/-- The visitor says to go on, whatever it is shown and whatever has been done
to the workspace. -/
def GoesOn (visitor : Item -> Guest Memory Verdict) : Prop :=
  forall item memory workspace, (((visitor item).run memory).run workspace).1.1 = .goOn

theorem GoesOn.verdicts {visitor : Item -> Guest Memory Verdict} (goesOn : GoesOn visitor)
    (items : List Item) (memory : Memory) (workspace : Workspace) :
    forall verdict, verdict ∈ (((items.mapM visitor).run memory).run workspace).1.1 ->
      verdict = .goOn := by
  induction items generalizing memory workspace with
  | nil => exact List.forall_mem_nil _
  | cons item rest inductiveHypothesis =>
      rw [run_mapM_cons]
      exact List.forall_mem_cons.mpr ⟨goesOn item memory workspace, inductiveHypothesis _ _⟩

/-- If a visitor always goes on and the search ends well, then all that was
found has been shown. -/
theorem GoesOn.all_shown {visitor : Item -> Guest Memory Verdict} (goesOn : GoesOn visitor)
    {memory later : Memory} {workspace left : Workspace} {found : Outcome (List (Outcome Item))}
    {shown : List Item}
    (shows : Shows visitor memory workspace found ((⟨shown, .ok ()⟩, later), left)) :
    found = .ok (shown.map .ok) := by
  cases shows with
  | @found _ rest verdicts _ _ _ called ends =>
      have always := goesOn.verdicts shown memory workspace
      rw [called] at always
      cases ends with
      | finished _ => rw [List.append_nil]
      | stopped _ => cases always .stop List.mem_concat_self

/-! ## Writing a draft -/

/-- What has been written so far, and how far in the text that goes.  What
lies beyond has not been touched. -/
structure Draft where
  written : List Char
  cursor : Nat

def Draft.finish (text : Array Char) (draft : Draft) : String :=
  String.ofList (draft.written ++ Regex.segment text draft.cursor text.size)

/-- The draft with the text up to the match, and the rewrite in place of the
match. -/
def Draft.add (text : Array Char) (draft : Draft) (rewrite : Rewrite) : Draft where
  written := draft.written ++ Regex.segment text draft.cursor rewrite.start ++ rewrite.text.toList
  cursor := rewrite.stop

/-- Writes every rewrite that is shown into the draft, and what stands in the
text before it. -/
def drafting (text : Array Char) (rewrite : Rewrite) : Guest Draft Verdict := do
  modify fun draft => draft.add text rewrite
  pure .goOn

/-- Adding the rewrites one by one and then the rest of the text is splicing
them. -/
theorem finish_foldl_add (text : Array Char) (draft : Draft) (rewrites : List Rewrite) :
    (rewrites.foldl (Draft.add text) draft).finish text =
      String.ofList (draft.written ++ Transform.splice text draft.cursor rewrites) := by
  induction rewrites generalizing draft with
  | nil => rfl
  | cons rewrite rest inductiveHypothesis =>
      rw [List.foldl_cons, inductiveHypothesis, Draft.add, Transform.splice]
      simp only [List.append_assoc]
      rfl

/-- The draft holds the rewrites that have been shown when the visiting
ends. -/
theorem run_visitAll_drafting (text : Array Char) (items : List (Outcome Rewrite)) (draft : Draft)
    (workspace : Workspace) :
    ∃ report,
      ((visitAll (drafting text) items).run draft).run workspace =
        ((report, report.visited.foldl (Draft.add text) draft), workspace) ∧
      items.mapM id = report.ending.map fun _ => report.visited := by
  induction items generalizing draft with
  | nil => exact ⟨⟨[], .ok ()⟩, rfl, rfl⟩
  | cons head rest inductiveHypothesis =>
      cases head with
      | error failure => exact ⟨⟨[], .error failure⟩, rfl, rfl⟩
      | ok rewrite =>
          rcases inductiveHypothesis (draft.add text rewrite) with ⟨report, ran, made⟩
          have visited : ((drafting text rewrite).run draft).run workspace =
              ((.goOn, draft.add text rewrite), workspace) := rfl
          refine ⟨⟨rewrite :: report.visited, report.ending⟩, ?_, ?_⟩
          · rw [run_visitAll_cons, visited]
            dsimp only
            rw [ran]
            rfl
          · rw [List.mapM_cons, made]
            cases report.ending <;> rfl

/-! ## Replacing -/

theorem run_rewriteBy (rewrite : Transform Pattern -> String -> Outcome String)
    (transform : Transform Place) (text : String) (workspace : Workspace) :
    ((rewriteBy rewrite transform text).run.run workspace).1 =
      rewrite ((prepare transform.left workspace).resolve transform) text :=
  congrArg Prod.fst (run_rewriteBy_eq rewrite transform text workspace)

theorem mapM_id_ok (rewrites : List Rewrite) :
    (rewrites.map (Except.ok : Rewrite -> Outcome Rewrite)).mapM id = .ok rewrites := by
  rw [List.mapM_map]
  exact List.mapM_pure.trans (congrArg Except.ok (List.map_id rewrites))

/-- Replacing makes the rewrites that a search has shown, if it has shown all
there are. -/
theorem replaces_of_shown {workspace left : Workspace} {transform : Transform Place} {text : String}
    {visitor : Rewrite -> Guest Memory Verdict} (goesOn : GoesOn visitor) {memory later : Memory}
    {rewrites : List Rewrite}
    (ran : ((searchRewrites transform text visitor).run memory).run workspace =
      ((⟨rewrites, .ok ()⟩, later), left)) :
    ∃ result, ((replace transform text).run.run workspace).1 = .ok result ∧
      Replaces text rewrites result := by
  let resolved := (prepare transform.left workspace).resolve transform
  have shows : Shows visitor memory (prepare transform.left workspace)
      ((resolved.left.findAll text).map (List.map resolved.rewrite))
      (((searchRewrites transform text visitor).run memory).run workspace) := by
    rw [run_searchRewrites]
    exact shows_visitFound visitor _ memory _
  rw [ran] at shows
  rcases Except.map_eq_ok_iff.mp (goesOn.all_shown shows) with ⟨visits, found, same⟩
  have made : visits.mapM resolved.rewrite = .ok rewrites := by
    have together := congrArg (List.mapM id) same
    rw [mapM_id_ok, List.mapM_map] at together
    exact together
  rw [replace, run_rewriteBy]
  exact Transform.replaces_of_mapM found made

/-- What replacing gives is the draft, once the search that writes it has
ended. -/
theorem replace_eq_finish (workspace : Workspace) (transform : Transform Place) (text : String) :
    ∃ report draft left,
      ((searchRewrites transform text (drafting text.toList.toArray)).run ⟨[], 0⟩).run workspace =
        ((report, draft), left) ∧
      ((replace transform text).run.run workspace).1 =
        report.ending.map fun _ => draft.finish text.toList.toArray := by
  let resolved := (prepare transform.left workspace).resolve transform
  have searched : forall draft,
      ((searchRewrites transform text (drafting text.toList.toArray)).run draft).run workspace =
        ((visitFound (drafting text.toList.toArray)
          ((resolved.left.findAll text).map (List.map resolved.rewrite))).run draft).run
            (prepare transform.left workspace) :=
    fun draft => run_searchRewrites transform text _ draft workspace
  rw [replace, run_rewriteBy, searched]
  cases found : resolved.left.findAll text with
  | error failure =>
      have fails : resolved.replace text = .error failure := by
        rw [Transform.replace, found]
        rfl
      exact ⟨⟨[], .error failure⟩, ⟨[], 0⟩, _, rfl, fails⟩
  | ok visits =>
      rcases run_visitAll_drafting text.toList.toArray (visits.map resolved.rewrite) ⟨[], 0⟩
        (prepare transform.left workspace) with ⟨report, ran, made⟩
      refine ⟨report, _, _, ran, ?_⟩
      rw [List.mapM_map] at made
      have replaced : resolved.replace text = visits.mapM resolved.rewrite >>= fun rewrites =>
          .ok (String.ofList (Transform.splice text.toList.toArray 0 rewrites)) := by
        rw [Transform.replace, found]
        rfl
      have shown : visits.mapM resolved.rewrite = report.ending.map fun _ => report.visited := made
      rw [replaced, shown, finish_foldl_add]
      cases report.ending <;> rfl

/-! ## Transforms from a template to itself -/

theorem pattern_prepare {place : Place} {workspace : Workspace}
    (inside : place < workspace.patterns.size) :
    (prepare place workspace).pattern place = (workspace.pattern place).compiled :=
  pattern_setPattern_self inside _

/-- A transform between templates is added to the workspace with both its
patterns. -/
theorem run_transformOfTemplates {checked : Bool} {left right : String}
    {bindings : List (Binding (Option String))} {verbose : Bool} {transform : Transform Pattern}
    (made : Transform.ofTemplates checked left right bindings verbose = .ok transform)
    (workspace : Workspace) :
    (transformOfTemplates checked left right bindings verbose).run.run workspace =
      (.ok ⟨workspace.patterns.size, workspace.patterns.size + 1, transform.verbose,
          transform.checked⟩,
        (workspace.addPattern transform.left).addPattern transform.right) := by
  have size : (workspace.addPattern transform.left).patterns.size = workspace.patterns.size + 1 :=
    Array.size_push _
  apply (run_attempt (Transform.ofTemplates checked left right bindings verbose) addTransform
    workspace).trans
  rw [made, ← size]
  rfl

theorem pattern_addPattern_new (workspace : Workspace) (pattern : Pattern) :
    (workspace.addPattern pattern).pattern workspace.patterns.size = pattern := by
  simp [Workspace.pattern, addPattern]

theorem pattern_addPattern_old {workspace : Workspace} (pattern : Pattern) {place : Place}
    (inside : place < workspace.patterns.size) :
    (workspace.addPattern pattern).pattern place = workspace.pattern place := by
  simp [Workspace.pattern, addPattern, Array.getElem?_push, Nat.ne_of_lt inside]

theorem resolve_addPattern (workspace : Workspace) (transform : Transform Pattern) :
    ((workspace.addPattern transform.left).addPattern transform.right).resolve
        ⟨workspace.patterns.size, workspace.patterns.size + 1, transform.verbose,
          transform.checked⟩ = transform := by
  have size : (workspace.addPattern transform.left).patterns.size = workspace.patterns.size + 1 :=
    Array.size_push _
  have inside : workspace.patterns.size < (workspace.addPattern transform.left).patterns.size := by
    rw [size]
    exact Nat.lt_succ_self _
  have left := pattern_addPattern_old transform.right inside
  rw [pattern_addPattern_new] at left
  have right := pattern_addPattern_new (workspace.addPattern transform.left) transform.right
  rw [size] at right
  rw [resolve, Transform.map, left, right]

/-- A transform that can be made has both its patterns in the workspace, where
it can be resolved to the one that was made. -/
theorem exists_made {checked : Bool} {left right : String}
    {bindings : List (Binding (Option String))} {verbose : Bool} {transform : Transform Pattern}
    (made : Transform.ofTemplates checked left right bindings verbose = .ok transform)
    (workspace : Workspace) :
    ∃ places later,
      (transformOfTemplates checked left right bindings verbose).run.run workspace =
        (.ok places, later) ∧
      later.resolve places = transform ∧ places.left < later.patterns.size ∧
        places.right < later.patterns.size := by
  have sizes : ((workspace.addPattern transform.left).addPattern transform.right).patterns.size =
      workspace.patterns.size + 2 := by
    simp only [addPattern, Array.size_push]
  refine ⟨_, _, run_transformOfTemplates made workspace, resolve_addPattern workspace transform, ?_⟩
  rw [sizes]
  exact ⟨Nat.lt_succ_of_lt (Nat.lt_succ_self _), Nat.lt_succ_self _⟩

end Workspace

namespace Transform

/-- A template that can be read gives a transform to itself, checked or
not. -/
theorem ofTemplates_self {template : String} {bindings : List (Binding (Option String))}
    {pattern : Pattern} (parsed : Pattern.parse template bindings = .ok pattern)
    (checked verbose : Bool) :
    ∃ right, right.template = pattern.template ∧
      ofTemplates checked template template bindings verbose =
        .ok ⟨pattern, right, verbose, checked⟩ := by
  rcases Pattern.parse_eq_ok_iff.mp parsed with ⟨read, reads, _, isPattern⟩
  have sameTemplate : pattern.template = read := congrArg Pattern.template isPattern
  have known : forall name, name ∈ read.names -> name ∈ pattern.names := by
    intro name member
    rw [isPattern]
    exact Pattern.mem_names_ofTemplate_iff.mpr member
  have derives : pattern.derive template =
      .ok (.ofTemplate template read pattern.rules.expression?) :=
    Pattern.derive_eq_ok_iff.mpr ⟨read, reads, known, rfl⟩
  have sameNames : Binding.sameNames pattern.bindings
      (Pattern.ofTemplate template read pattern.rules.expression?).bindings = true := by
    rw [Binding.sameNames_iff_count, Pattern.names_bindings, Pattern.names_bindings, sameTemplate]
    exact fun name => rfl
  refine ⟨.ofTemplate template read pattern.rules.expression?, sameTemplate.symm, ?_⟩
  rw [ofTemplates_of_derive_eq_ok parsed derives, check, if_pos sameNames]
  cases checked <;> rfl

end Transform

namespace Workspace

theorem compile_compiled {pattern : Pattern} {matcher : Matcher}
    (compiles : pattern.compile = .ok matcher) : pattern.compiled.compile = .ok matcher := by
  rw [Pattern.compiled, compiles]
  rfl

/-- A transform between patterns of the same template rewrites every text to
itself. -/
theorem replace_eq_self {workspace : Workspace} {transform : Transform Place}
    (inside : transform.left < workspace.patterns.size)
    (consistent : (workspace.pattern transform.left).IsConsistent) {matcher : Matcher}
    (compiles : (workspace.pattern transform.left).compile = .ok matcher)
    (same : (workspace.pattern transform.right).template =
      (workspace.pattern transform.left).template) (text : String) :
    ((replace transform text).run.run workspace).1 = .ok text ∧
      forall bindings, (workspace.pattern transform.left).matchWhole text = .ok bindings ->
        ((applyTransform transform text).run.run workspace).1 = .ok text := by
  let resolved := (prepare transform.left workspace).resolve transform
  have left : resolved.left = (workspace.pattern transform.left).compiled := pattern_prepare inside
  have coherent : resolved.left.IsCoherent := by
    rw [left]
    exact consistent.compiled.coherent
  have leftCompiles : resolved.left.compile = .ok matcher := by
    rw [left]
    exact compile_compiled compiles
  have templates : resolved.right.template = resolved.left.template := by
    have kept := template_prepare transform.left
    exact (kept transform.right workspace).trans (same.trans (kept transform.left workspace).symm)
  rw [replace, applyTransform, run_rewriteBy, run_rewriteBy]
  constructor
  · exact Transform.replace_eq_self coherent leftCompiles templates text
  · intro bindings matched
    have leftMatched : resolved.left.matchWhole text = .ok bindings := by
      rw [Pattern.matchWhole, leftCompiles]
      rw [Pattern.matchWhole, compiles] at matched
      exact matched
    exact Transform.apply_eq_self coherent leftCompiles templates leftMatched

/-- Replacing makes the rewrites that a search through the transform shows,
and nothing else: the result is the text with each match replaced by its
rewrite, and every position outside the matches is kept, once and in order.
It is what a visitor writes who takes over the text from one match to the
next.  A transform from a template to itself, with any expressions for which
the pattern compiles, leaves every text as it is, and applying it leaves every
text as it is that matches. -/
theorem replace_makes_rewrites (workspace : Workspace) :
    (forall (transform : Transform Place) (text : String),
      (forall {Memory : Type} (visitor : Rewrite -> Guest Memory Verdict) (memory later : Memory)
          (rewrites : List Rewrite) (left : Workspace), GoesOn visitor ->
        ((searchRewrites transform text visitor).run memory).run workspace =
          ((⟨rewrites, .ok ()⟩, later), left) ->
        ∃ result, ((replace transform text).run.run workspace).1 = .ok result ∧
          Replaces text rewrites result) ∧
      ∃ report draft left,
        ((searchRewrites transform text (drafting text.toList.toArray)).run ⟨[], 0⟩).run workspace =
          ((report, draft), left) ∧
        ((replace transform text).run.run workspace).1 =
          report.ending.map fun _ => draft.finish text.toList.toArray) ∧
    forall (checked verbose : Bool) (template : String) (bindings : List (Binding (Option String)))
        (pattern : Pattern) (matcher : Matcher),
      Pattern.parse template bindings = .ok pattern -> pattern.compile = .ok matcher ->
      ∃ transform left,
        (transformOfTemplates checked template template bindings verbose).run.run workspace =
          (.ok transform, left) ∧
        forall text, ((replace transform text).run.run left).1 = .ok text ∧
          forall bound, pattern.matchWhole text = .ok bound ->
            ((applyTransform transform text).run.run left).1 = .ok text := by
  constructor
  · intro transform text
    constructor
    · intro Memory visitor memory later rewrites left goesOn ran
      exact replaces_of_shown goesOn ran
    · exact replace_eq_finish workspace transform text
  · intro checked verbose template bindings pattern matcher parsed compiles
    rcases Transform.ofTemplates_self parsed checked verbose with ⟨right, sameTemplate, made⟩
    rcases exists_made made workspace with ⟨places, later, ran, held, inside, _⟩
    have leftHeld : later.pattern places.left = pattern := congrArg Transform.left held
    have rightHeld : later.pattern places.right = right := congrArg Transform.right held
    refine ⟨places, later, ran, fun text => ?_⟩
    rw [← leftHeld] at parsed compiles sameTemplate ⊢
    rw [← rightHeld] at sameTemplate
    exact replace_eq_self inside (Pattern.isConsistent_of_parse parsed) compiles sameTemplate text

/-- A transform that puts runs of one letter between angles, also empty
runs. -/
def runsExample : Workspace :=
  after (transformOfTemplates false "${x}" "<${x}>" [⟨"x", some "b*"⟩] false) .empty

theorem replace_makes_rewrites_runsExample :
    ∃ rewrites result pattern matcher,
      GoesOn (drafting "abc".toList.toArray) ∧
        rewrites = [⟨0, 0, "<>"⟩, ⟨1, 2, "<b>"⟩, ⟨2, 2, "<>"⟩, ⟨3, 3, "<>"⟩] ∧
        ((replace ⟨0, 1, false, false⟩ "abc").run.run runsExample).1 = .ok result ∧
        Replaces "abc" rewrites result ∧
        Pattern.parse "${x}" [⟨"x", some "b*"⟩] = .ok pattern ∧
        pattern.compile = .ok matcher ∧
        ∃ transform left,
          (transformOfTemplates false "${x}" "${x}" [⟨"x", some "b*"⟩] false).run.run runsExample =
            (.ok transform, left) ∧
          ((replace transform "abc").run.run left).1 = .ok "abc" := by
  have goesOn : GoesOn (drafting "abc".toList.toArray) := fun _ _ _ => rfl
  have shown : (((searchRewrites ⟨0, 1, false, false⟩ "abc" (drafting "abc".toList.toArray)).run
      ⟨[], 0⟩).run runsExample).1.1.visited =
        [⟨0, 0, "<>"⟩, ⟨1, 2, "<b>"⟩, ⟨2, 2, "<>"⟩, ⟨3, 3, "<>"⟩] := by
    decide +kernel
  have ended : (((searchRewrites ⟨0, 1, false, false⟩ "abc" (drafting "abc".toList.toArray)).run
      ⟨[], 0⟩).run runsExample).1.1.ending.toOption = some () := by
    decide +kernel
  have parses : (Pattern.parse "${x}" [⟨"x", some "b*"⟩]).toOption.isSome = true := by
    decide +kernel
  have compiles : ((Pattern.parse "${x}" [⟨"x", some "b*"⟩]).bind Pattern.compile).toOption.isSome =
      true := by
    decide +kernel
  rcases ran : ((searchRewrites ⟨0, 1, false, false⟩ "abc" (drafting "abc".toList.toArray)).run
    ⟨[], 0⟩).run runsExample with ⟨⟨⟨rewrites, ending⟩, later⟩, left⟩
  rcases Except.exists_ok_of_isSome parses with ⟨pattern, parsed⟩
  rw [parsed] at compiles
  rcases Except.exists_ok_of_isSome compiles with ⟨matcher, compiled⟩
  rw [ran, Except.toOption_eq_some_iff] at ended
  rw [ran] at shown
  cases ended
  rcases replace_makes_rewrites runsExample with ⟨makes, unchanged⟩
  rcases (makes ⟨0, 1, false, false⟩ "abc").1 _ _ _ _ _ goesOn ran with ⟨result, done, replaces⟩
  rcases unchanged false false "${x}" [⟨"x", some "b*"⟩] pattern matcher parsed compiled with
    ⟨transform, later, made, same⟩
  exact ⟨rewrites, result, pattern, matcher, goesOn, shown, done, replaces, parsed, compiled,
    transform, later, made, (same "abc").1⟩

end Workspace
end Stencil

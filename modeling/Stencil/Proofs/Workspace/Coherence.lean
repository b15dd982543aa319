import Stencil.Proofs.Pattern.Coherence
import Stencil.Proofs.Pattern.Looping
import Stencil.Proofs.Pattern.Visiting
import Stencil.Workspace

namespace Stencil
namespace Workspace

/-!
Workspaces over whole runs.  A run is any sequence of actions on a workspace,
failing or not, and the visitors of its searches, like the functions that make
values for its templates, may themselves run what they like in between: they
may rebind the pattern being searched.  However a workspace has been reached,
every matcher kept in it is the one that the rules of its pattern give now.

So whether a pattern has been compiled, copied or rebound before cannot be
told from what compiling, matching and searching do: in the place of the
pattern one could have the pattern freshly parsed from its text, with the same
rules.  That is `freshlyParsed_of_reaches`.
-/

variable {Value Other : Type}

/-- The workspace that an action leaves, whether it succeeds or fails. -/
def after (action : Action Value) (workspace : Workspace) : Workspace :=
  (action.run.run workspace).2

def afterGuest {Memory : Type} (guest : Guest Memory Value) (memory : Memory)
    (workspace : Workspace) : Workspace :=
  ((guest.run memory).run workspace).2

/-- Running actions leads from one workspace to the other.  A search or a
filling is one step, provided that what its guest does is a run as well. -/
inductive Reaches : Workspace -> Workspace -> Prop where
  | refl (workspace : Workspace) : Reaches workspace workspace
  | trans {first second third : Workspace} (before : Reaches first second)
      (later : Reaches second third) : Reaches first third
  | parse (workspace : Workspace) (text : String) (bindings : List (Binding (Option String))) :
      Reaches workspace (after (parse text bindings) workspace)
  | derive (workspace : Workspace) (place : Place) (text : String) :
      Reaches workspace (after (derive place text) workspace)
  | copy (workspace : Workspace) (place : Place) :
      Reaches workspace (after (copy place) workspace)
  | rebind (workspace : Workspace) (place : Place) (name : String) (expression : Option String) :
      Reaches workspace (after (rebind place name expression) workspace)
  | compile (workspace : Workspace) (place : Place) :
      Reaches workspace (after (compile place) workspace)
  | matchWhole (workspace : Workspace) (place : Place) (text : String) :
      Reaches workspace (after (matchWhole place text) workspace)
  | findAll (workspace : Workspace) (place : Place) (text : String) :
      Reaches workspace (after (findAll place text) workspace)
  | search {Memory : Type} (workspace : Workspace) (memory : Memory) (place : Place)
      (text : String) (visitor : Matcher.Visit -> Guest Memory Verdict)
      (visits : forall visit memory workspace,
        Reaches workspace (afterGuest (visitor visit) memory workspace)) :
      Reaches workspace (afterGuest (search place text visitor) memory workspace)
  | applyWith {Value : Type} (workspace : Workspace) (place : Place)
      (read : Value -> Outcome String) (bindings : List (Binding Value)) :
      Reaches workspace (after (applyWith place read bindings) workspace)
  | applyFunction {Memory : Type} (workspace : Workspace) (memory : Memory) (place : Place)
      (value : String -> Nat -> Guest Memory (Except ValueFault String))
      (calls : forall name occurrence memory workspace,
        Reaches workspace (afterGuest (value name occurrence) memory workspace)) :
      Reaches workspace (afterGuest (applyFunction place value) memory workspace)
  | transformOfTemplates (workspace : Workspace) (checked : Bool) (left right : String)
      (bindings : List (Binding (Option String))) (verbose : Bool) :
      Reaches workspace
        (after (transformOfTemplates checked left right bindings verbose) workspace)
  | check (workspace : Workspace) (transform : Transform Place) :
      Reaches workspace (after (check transform) workspace)
  | applyTransform (workspace : Workspace) (transform : Transform Place) (text : String) :
      Reaches workspace (after (applyTransform transform text) workspace)
  | replace (workspace : Workspace) (transform : Transform Place) (text : String) :
      Reaches workspace (after (replace transform text) workspace)
  | searchRewrites {Memory : Type} (workspace : Workspace) (memory : Memory)
      (transform : Transform Place) (text : String) (visitor : Rewrite -> Guest Memory Verdict)
      (visits : forall rewrite memory workspace,
        Reaches workspace (afterGuest (visitor rewrite) memory workspace)) :
      Reaches workspace (afterGuest (searchRewrites transform text visitor) memory workspace)

/-- Every pattern is consistent.  Workspaces that are reached from the empty
one are. -/
def IsConsistent (workspace : Workspace) : Prop :=
  forall pattern, pattern ∈ workspace.patterns -> pattern.IsConsistent

theorem isConsistent_empty : empty.IsConsistent :=
  fun pattern member => absurd member (Array.not_mem_empty pattern)

variable {workspace : Workspace}

/-- The blank pattern, which stands where there is none, is consistent too, so
places need not be looked at. -/
theorem IsConsistent.pattern (consistent : workspace.IsConsistent) (place : Place) :
    (workspace.pattern place).IsConsistent := by
  unfold Workspace.pattern
  by_cases inside : place < workspace.patterns.size
  · rw [Array.getD, dif_pos inside]
    exact consistent _ (Array.getElem_mem inside)
  · rw [Array.getD, dif_neg inside]
    exact Pattern.isConsistent_blank

theorem pattern_setPattern_self {place : Place} (inside : place < workspace.patterns.size)
    (pattern : Pattern) : (workspace.setPattern place pattern).pattern place = pattern := by
  rw [Workspace.pattern, setPattern, Array.getD_eq_getD_getElem?,
    Array.getElem?_setIfInBounds_self_of_lt inside, Option.getD_some]

theorem pattern_setPattern_of_ne {place other : Place} (apart : place ≠ other) (pattern : Pattern) :
    (workspace.setPattern place pattern).pattern other = workspace.pattern other := by
  rw [Workspace.pattern, setPattern, Array.getD_eq_getD_getElem?,
    Array.getElem?_setIfInBounds_ne apart, ← Array.getD_eq_getD_getElem?, Workspace.pattern]

theorem IsConsistent.addPattern (consistent : workspace.IsConsistent) {pattern : Pattern}
    (added : pattern.IsConsistent) : (workspace.addPattern pattern).IsConsistent := by
  intro other member
  rcases Array.mem_push.mp member with earlier | rfl
  · exact consistent other earlier
  · exact added

theorem IsConsistent.setPattern (consistent : workspace.IsConsistent) (place : Place)
    {pattern : Pattern} (given : pattern.IsConsistent) :
    (workspace.setPattern place pattern).IsConsistent := by
  intro other member
  rcases Array.mem_or_eq_of_mem_setIfInBounds member with earlier | rfl
  · exact consistent other earlier
  · exact given

theorem IsConsistent.prepare (consistent : workspace.IsConsistent) (place : Place) :
    (Workspace.prepare place workspace).IsConsistent :=
  consistent.setPattern place (consistent.pattern place).compiled

/-! ## What each action leaves -/

theorem run_lift (outcome : Outcome Value) (workspace : Workspace) :
    (liftM outcome : Action Value).run.run workspace = (outcome, workspace) := by
  cases outcome <;> rfl

/-- An attempt that fails ends what is done, and changes nothing; one that
succeeds is gone on from. -/
theorem run_attempt (outcome : Outcome Value) (next : Value -> Action Other)
    (workspace : Workspace) :
    ((liftM outcome : Action Value) >>= next).run.run workspace =
      match outcome with
      | .ok value => (next value).run.run workspace
      | .error failure => (.error failure, workspace) := by
  cases outcome <;> rfl

theorem after_attempt (holds : Workspace -> Prop) (outcome : Outcome Value)
    (next : Value -> Action Other) (failed : holds workspace)
    (done : forall value, outcome = .ok value -> holds (after (next value) workspace)) :
    holds (after ((liftM outcome : Action Value) >>= next) workspace) := by
  cases outcome with
  | error failure => exact failed
  | ok value => exact done value rfl

theorem run_compile (place : Place) (workspace : Workspace) :
    (compile place).run.run workspace =
      (((prepare place workspace).pattern place).compile, prepare place workspace) :=
  run_lift ((prepare place workspace).pattern place).compile _

theorem run_matchWhole (place : Place) (text : String) (workspace : Workspace) :
    (matchWhole place text).run.run workspace =
      (((prepare place workspace).pattern place).matchWhole text, prepare place workspace) :=
  run_lift (((prepare place workspace).pattern place).matchWhole text) _

theorem run_findAll (place : Place) (text : String) (workspace : Workspace) :
    (findAll place text).run.run workspace =
      (((prepare place workspace).pattern place).findAll text, prepare place workspace) :=
  run_lift (((prepare place workspace).pattern place).findAll text) _

theorem run_applyWith (place : Place) (read : Value -> Outcome String)
    (bindings : List (Binding Value)) (workspace : Workspace) :
    (applyWith place read bindings).run.run workspace =
      ((workspace.pattern place).applyWith read bindings, workspace) :=
  run_lift ((workspace.pattern place).applyWith read bindings) workspace

/-- A search leaves what it would leave if all matches had been found before
the first visit, by the pattern as it is when the search begins. -/
theorem run_search {Memory : Type} (place : Place) (text : String)
    (visitor : Matcher.Visit -> Guest Memory Verdict) (memory : Memory) (workspace : Workspace) :
    ((search place text visitor).run memory).run workspace =
      ((visitFound visitor
        ((((prepare place workspace).pattern place).findAll text).map (List.map .ok))).run
          memory).run (prepare place workspace) := by
  rw [← Pattern.search_eq_visitFound]
  rfl

/-- A search through a transform does so with what the matches are rewritten
to. -/
theorem run_searchRewrites {Memory : Type} (transform : Transform Place) (text : String)
    (visitor : Rewrite -> Guest Memory Verdict) (memory : Memory) (workspace : Workspace) :
    ((searchRewrites transform text visitor).run memory).run workspace =
      ((visitFound visitor ((((prepare transform.left workspace).pattern transform.left).findAll
        text).map (List.map ((prepare transform.left workspace).resolve transform).rewrite))).run
          memory).run (prepare transform.left workspace) := by
  rw [← Pattern.search_eq_visitFound]
  rfl

theorem run_rebind (place : Place) (name : String) (expression : Option String)
    (workspace : Workspace) :
    (rebind place name expression).run.run workspace =
      match (workspace.pattern place).rebind name expression with
      | .ok rebound => (.ok (), workspace.setPattern place rebound)
      | .error failure => (.error failure, workspace) := by
  let next (pattern : Pattern) : Action Unit :=
    modify fun workspace => workspace.setPattern place pattern
  apply (run_attempt ((workspace.pattern place).rebind name expression) next workspace).trans
  cases (workspace.pattern place).rebind name expression <;> rfl

theorem run_check (transform : Transform Place) (workspace : Workspace) :
    (check transform).run.run workspace =
      ((workspace.resolve transform).check.map fun resolved =>
        { transform with checked := resolved.checked }, workspace) := by
  let next (resolved : Transform Pattern) : Action (Transform Place) :=
    pure { transform with checked := resolved.checked }
  apply (run_attempt (workspace.resolve transform).check next workspace).trans
  cases (workspace.resolve transform).check <;> rfl

theorem after_check (transform : Transform Place) :
    after (check transform) workspace = workspace :=
  congrArg Prod.snd (run_check transform workspace)

/-- Rewriting compiles the left-hand pattern, and then leaves a report.
Nothing else in the workspace is changed. -/
theorem run_rewriteBy_eq (rewrite : Transform Pattern -> String -> Outcome String)
    (transform : Transform Place) (text : String) (workspace : Workspace) :
    (rewriteBy rewrite transform text).run.run workspace =
      let resolved := (prepare transform.left workspace).resolve transform
      (rewrite resolved text, (prepare transform.left workspace).appendReport
        (resolved.reported text (rewrite resolved text))) :=
  run_lift (rewrite ((prepare transform.left workspace).resolve transform) text) _

theorem after_rewriteBy (rewrite : Transform Pattern -> String -> Outcome String)
    (transform : Transform Place) (text : String) :
    ∃ report, after (rewriteBy rewrite transform text) workspace =
      (prepare transform.left workspace).appendReport report :=
  ⟨_, congrArg Prod.snd (run_rewriteBy_eq rewrite transform text workspace)⟩

theorem afterGuest_bind {Memory : Type} (guest : Guest Memory Value)
    (next : Value -> Guest Memory Other) (memory : Memory) (workspace : Workspace) :
    afterGuest (guest >>= next) memory workspace =
      afterGuest (next ((guest.run memory).run workspace).1.1)
        ((guest.run memory).run workspace).1.2 (afterGuest guest memory workspace) :=
  rfl

/-- The left-hand pattern of a transform between templates is parsed, the
right-hand one derived. -/
theorem patterns_of_ofTemplates {checked : Bool} {left right : String}
    {bindings : List (Binding (Option String))} {verbose : Bool} {transform : Transform Pattern}
    (done : Transform.ofTemplates checked left right bindings verbose = .ok transform) :
    Pattern.parse left bindings = .ok transform.left ∧
      transform.left.derive right = .ok transform.right := by
  obtain ⟨leftPattern, parsed, afterLeft⟩ := Except.bind_eq_ok_iff.mp done
  obtain ⟨rightPattern, derived, rest⟩ := Except.bind_eq_ok_iff.mp afterLeft
  have leftParsed := Except.mapError_eq_ok_iff.mp parsed
  have rightDerived := Except.mapError_eq_ok_iff.mp (Except.mapError_eq_ok_iff.mp derived)
  dsimp only at rest
  split at rest
  · unfold Transform.check at rest
    split at rest
    · cases rest
      exact ⟨leftParsed, rightDerived⟩
    · cases rest
  · cases rest
    exact ⟨leftParsed, rightDerived⟩

theorem isConsistent_of_ofTemplates {checked : Bool} {left right : String}
    {bindings : List (Binding (Option String))} {verbose : Bool} {transform : Transform Pattern}
    (done : Transform.ofTemplates checked left right bindings verbose = .ok transform) :
    transform.left.IsConsistent ∧ transform.right.IsConsistent := by
  obtain ⟨parsed, derived⟩ := patterns_of_ofTemplates done
  exact ⟨Pattern.isConsistent_of_parse parsed, Pattern.isConsistent_of_derive derived⟩

/-- What a visitor keeps at each visit is kept by visiting.  This goes by
induction on the items. -/
theorem afterGuest_visitAll {Memory Item : Type} {holds : Workspace -> Prop}
    {visitor : Item -> Guest Memory Verdict}
    (keeps : forall item memory workspace, holds workspace ->
      holds (afterGuest (visitor item) memory workspace))
    (items : List (Outcome Item)) (memory : Memory) (begun : holds workspace) :
    holds (afterGuest (visitAll visitor items) memory workspace) := by
  induction items generalizing memory workspace with
  | nil => exact begun
  | cons first rest inductiveHypothesis =>
      cases first with
      | error failure => exact begun
      | ok item =>
          have visited := keeps item memory workspace begun
          rw [visitAll, showThen, afterGuest_bind]
          cases (((visitor item).run memory).run workspace).1.1 with
          | stop => exact visited
          | giveUp failure => exact visited
          | goOn => exact inductiveHypothesis _ visited

theorem afterGuest_visitFound {Memory Item : Type} {holds : Workspace -> Prop}
    {visitor : Item -> Guest Memory Verdict}
    (keeps : forall item memory workspace, holds workspace ->
      holds (afterGuest (visitor item) memory workspace))
    (found : Outcome (List (Outcome Item))) (memory : Memory) (begun : holds workspace) :
    holds (afterGuest (visitFound visitor found) memory workspace) := by
  cases found with
  | error failure => exact begun
  | ok items => exact afterGuest_visitAll keeps items memory begun

variable {Memory : Type}

theorem run_bind_guest (attempt : ExceptT Failure (Guest Memory) Value)
    (next : Value -> ExceptT Failure (Guest Memory) Other) (memory : Memory) (workspace : Workspace) :
    ((attempt >>= next).run.run memory).run workspace =
      match (attempt.run.run memory).run workspace with
      | ((.ok result, later), left) => ((next result).run.run later).run left
      | ((.error failure, later), left) => ((.error failure, later), left) := by
  rw [ExceptT.run_bind, StateT.run_bind, StateT.run_bind]
  rcases (attempt.run.run memory).run workspace with ⟨⟨result, later⟩, left⟩
  cases result <;> rfl

theorem afterGuest_converted (attempt : ExceptT Failure (Guest Memory) Value)
    (convert : Value -> Other) (memory : Memory) (workspace : Workspace) :
    afterGuest (attempt >>= fun value => pure (convert value)).run memory workspace =
      afterGuest attempt.run memory workspace := by
  rw [afterGuest, afterGuest, run_bind_guest]
  rcases (attempt.run.run memory).run workspace with ⟨⟨result, later⟩, left⟩
  cases result <;> rfl

theorem run_filler {value : String -> Nat -> Guest Memory (Except ValueFault String)}
    {name : String} {occurrence : Nat} {memory later : Memory} {workspace left : Workspace}
    {made : Except ValueFault String}
    (run : ((value name occurrence).run memory).run workspace = ((made, later), left)) :
    ((Pattern.filler value name occurrence).run.run memory).run workspace =
      ((made.mapError (.synthesis name), later), left) := by
  rw [Pattern.filler, ExceptT.run_mk, StateT.run_bind, StateT.run_bind, run]
  cases made <;> rfl

/-- Filling makes a value for the first placeholder and, unless that fails,
goes on behind it. -/
theorem afterGuest_fillPieces_cons
    {value : String -> Nat -> Guest Memory (Except ValueFault String)} {name : String}
    {passed : List String} {memory later : Memory} {workspace left : Workspace}
    {made : Except ValueFault String}
    (run : ((value name (passed.count name + 1)).run memory).run workspace = ((made, later), left))
    (last literal : String) (rest : List (String × String)) :
    afterGuest (Template.fillPieces (Pattern.filler value) last passed ((literal, name) :: rest)).run
        memory workspace =
      match made with
      | .ok _ => afterGuest (Template.fillPieces (Pattern.filler value) last (name :: passed) rest).run
          later left
      | .error _ => left := by
  rw [Template.fillPieces, afterGuest, run_bind_guest, run_filler run]
  cases made with
  | error fault => rfl
  | ok text => exact afterGuest_converted _ (fun remainder => literal ++ text ++ remainder) later left

/-- What making each value keeps is kept by filling, wherever that may
fail. -/
theorem afterGuest_fillPieces {holds : Workspace -> Prop}
    {value : String -> Nat -> Guest Memory (Except ValueFault String)}
    (keeps : forall name occurrence memory workspace, holds workspace ->
      holds (afterGuest (value name occurrence) memory workspace))
    (last : String) (pieces : List (String × String)) (passed : List String) (memory : Memory)
    (begun : holds workspace) :
    holds (afterGuest (Template.fillPieces (Pattern.filler value) last passed pieces).run memory
      workspace) := by
  induction pieces generalizing passed memory workspace with
  | nil => exact begun
  | cons piece rest inductiveHypothesis =>
      obtain ⟨literal, name⟩ := piece
      obtain ⟨made, later, left, run⟩ : ∃ made later left,
          ((value name (passed.count name + 1)).run memory).run workspace =
            ((made, later), left) := ⟨_, _, _, rfl⟩
      have called := keeps name (passed.count name + 1) memory workspace begun
      rw [afterGuest, run] at called
      rw [afterGuest_fillPieces_cons run]
      cases made with
      | error fault => exact called
      | ok text => exact inductiveHypothesis (name :: passed) later called

/-- Filling the template of a pattern leaves what filling its pieces
leaves. -/
theorem afterGuest_applyFunction (place : Place)
    (value : String -> Nat -> Guest Memory (Except ValueFault String)) (memory : Memory)
    (workspace : Workspace) :
    afterGuest (applyFunction place value) memory workspace =
      afterGuest (Template.fillPieces (Pattern.filler value) (workspace.pattern place).template.last []
        (workspace.pattern place).template.pieces).run memory workspace := by
  have filled : afterGuest (applyFunction place value) memory workspace =
      afterGuest ((workspace.pattern place).applyFunction value).run memory workspace := rfl
  rw [filled, Pattern.applyFunction_eq_fillWith, Template.fillWith]

/-- Every run keeps every pattern consistent.  The cases are one for each
action, and their guests are taken care of by the induction. -/
theorem Reaches.isConsistent {first second : Workspace} (reaches : Reaches first second)
    (consistent : first.IsConsistent) : second.IsConsistent := by
  induction reaches with
  | refl => exact consistent
  | trans _ _ firstKeeps secondKeeps => exact secondKeeps (firstKeeps consistent)
  | parse workspace text bindings =>
      exact after_attempt IsConsistent (Pattern.parse text bindings) add consistent
        fun pattern done => consistent.addPattern (Pattern.isConsistent_of_parse done)
  | derive workspace place text =>
      exact after_attempt IsConsistent ((workspace.pattern place).derive text) add consistent
        fun pattern done => consistent.addPattern (Pattern.isConsistent_of_derive done)
  | copy workspace place => exact consistent.addPattern (consistent.pattern place)
  | rebind workspace place name expression =>
      let next (pattern : Pattern) : Action Unit :=
        modify fun workspace => workspace.setPattern place pattern
      have attempted : after (Workspace.rebind place name expression) workspace =
          after (liftM ((workspace.pattern place).rebind name expression) >>= next) workspace := rfl
      rw [attempted]
      exact after_attempt IsConsistent _ next consistent fun pattern done =>
        consistent.setPattern place ((consistent.pattern place).rebind done)
  | compile workspace place =>
      rw [after, run_compile]
      exact consistent.prepare place
  | matchWhole workspace place text =>
      rw [after, run_matchWhole]
      exact consistent.prepare place
  | findAll workspace place text =>
      rw [after, run_findAll]
      exact consistent.prepare place
  | search workspace memory place text visitor visits keeps =>
      rw [afterGuest, run_search]
      exact afterGuest_visitFound keeps _ memory (consistent.prepare place)
  | applyWith workspace place read bindings =>
      rw [after, run_applyWith]
      exact consistent
  | applyFunction workspace memory place value calls keeps =>
      rw [afterGuest_applyFunction]
      exact afterGuest_fillPieces keeps _ _ [] memory consistent
  | transformOfTemplates workspace checked left right bindings verbose =>
      unfold Workspace.transformOfTemplates
      refine after_attempt IsConsistent _ _ consistent fun transform done => ?_
      obtain ⟨leftConsistent, rightConsistent⟩ := isConsistent_of_ofTemplates done
      exact (consistent.addPattern leftConsistent).addPattern rightConsistent
  | check workspace transform =>
      rw [after_check]
      exact consistent
  | applyTransform workspace transform text =>
      obtain ⟨report, same⟩ := after_rewriteBy Transform.apply transform text
      rw [Workspace.applyTransform, same]
      exact consistent.prepare transform.left
  | replace workspace transform text =>
      obtain ⟨report, same⟩ := after_rewriteBy Transform.replace transform text
      rw [Workspace.replace, same]
      exact consistent.prepare transform.left
  | searchRewrites workspace memory transform text visitor visits keeps =>
      rw [afterGuest, run_searchRewrites]
      exact afterGuest_visitFound keeps _ memory (consistent.prepare transform.left)

/-! ## What cannot be told -/

/-- Compiling in place of a pattern the one that is not compiled yet leaves
the same. -/
theorem prepare_setPattern_fresh (consistent : workspace.IsConsistent) (place : Place) :
    prepare place (workspace.setPattern place (workspace.pattern place).fresh) =
      prepare place workspace := by
  by_cases inside : place < workspace.patterns.size
  · unfold prepare
    rw [pattern_setPattern_self inside, Pattern.compiled_fresh (consistent.pattern place).coherent]
    simp only [setPattern, Array.setIfInBounds_setIfInBounds]
  · have kept : workspace.setPattern place (workspace.pattern place).fresh = workspace := by
      rw [setPattern, Array.setIfInBounds_eq_of_size_le (Nat.le_of_not_lt inside)]
    rw [kept]

/-- In every workspace that can be reached, a kept matcher is the one that the
present rules give, and compiling, matching and searching do the same, with
the same outcome, as they would had the pattern just been parsed from its text
with its present rules. -/
theorem freshlyParsed_of_reaches {workspace : Workspace} (reached : Reaches .empty workspace)
    (place : Place) :
    (forall matcher, (workspace.pattern place).matcher = some matcher ->
      Matcher.ofFragments (workspace.pattern place).rules.expression?
        (workspace.pattern place).fragments = .ok matcher) ∧
    ∃ parsed, Pattern.parse (workspace.pattern place).text
        (workspace.pattern place).rules.bindings = .ok parsed ∧
      parsed.template = (workspace.pattern place).template ∧
      parsed.rules = (workspace.pattern place).rules ∧ parsed.isCompiled = false ∧
      (compile place).run.run workspace =
        (compile place).run.run (workspace.setPattern place parsed) ∧
      (forall text, (matchWhole place text).run.run workspace =
        (matchWhole place text).run.run (workspace.setPattern place parsed)) ∧
      (forall text, (findAll place text).run.run workspace =
        (findAll place text).run.run (workspace.setPattern place parsed)) ∧
      forall (Memory : Type) (memory : Memory) (text : String)
        (visitor : Matcher.Visit -> Guest Memory Verdict),
        ((search place text visitor).run memory).run workspace =
          ((search place text visitor).run memory).run (workspace.setPattern place parsed) := by
  have consistent := reached.isConsistent isConsistent_empty
  have pattern := consistent.pattern place
  have same := prepare_setPattern_fresh consistent place
  refine ⟨pattern.coherent, (workspace.pattern place).fresh, Pattern.parse_bindings pattern,
    rfl, rfl, rfl, ?_, ?_, ?_, ?_⟩
  · rw [run_compile, run_compile, same]
  · intro text
    rw [run_matchWhole, run_matchWhole, same]
  · intro text
    rw [run_findAll, run_findAll, same]
  · intro Memory memory text visitor
    rw [run_search, run_search, same]

/-- A visitor that rebinds the pattern being searched and goes on. -/
def rebindingVisitor (_ : Matcher.Visit) : Guest Unit Verdict := do
  let _ ← (rebind 0 "x" (some "b")).run
  pure .goOn

/-- A workspace with a pattern that was compiled, copied and rebound during a
search of it. -/
def searchedExample : Workspace :=
  afterGuest (search 0 "aa" rebindingVisitor) ()
    (after (copy 0) (after (compile 0) (after (parse "${x}" [⟨"x", some "a"⟩]) .empty)))

theorem freshlyParsed_of_reaches_searchedExample :
    Reaches .empty searchedExample ∧ (forall matcher,
      (searchedExample.pattern 0).matcher = some matcher ->
        Matcher.ofFragments (searchedExample.pattern 0).rules.expression?
          (searchedExample.pattern 0).fragments = .ok matcher) ∧
      ∃ parsed, Pattern.parse (searchedExample.pattern 0).text
          (searchedExample.pattern 0).rules.bindings = .ok parsed ∧
        (compile 0).run.run searchedExample =
          (compile 0).run.run (searchedExample.setPattern 0 parsed) := by
  have reached : Reaches .empty searchedExample := by
    refine .trans (.parse _ "${x}" [⟨"x", some "a"⟩]) (.trans (.compile _ 0) (.trans (.copy _ 0) ?_))
    exact .search _ () 0 "aa" rebindingVisitor fun _ _ workspace =>
      .rebind workspace 0 "x" (some "b")
  obtain ⟨coherent, parsed, parses, _, _, _, compiles, _⟩ := freshlyParsed_of_reaches reached 0
  exact ⟨reached, coherent, parsed, parses, compiles⟩

end Workspace
end Stencil

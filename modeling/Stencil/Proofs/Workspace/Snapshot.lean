import Stencil.Proofs.Pattern.Substitution
import Stencil.Proofs.Workspace.Ownership

namespace Stencil
namespace Workspace

/-!
Searches as snapshots.  What a search shows its visitor is settled before the
first visit: the matches that would have been found when it began.  The
visitor is called with these in order, until they are used up or it says
something else than to go on, and what it says then is how the search ends.
In between it may do to the patterns whatever it likes, also to the one being
searched.

Through a transform a search shows rewrites.  They may be made beforehand, or
one by one from the right-hand pattern as it is when each is shown: no run
changes a template, and the text that a match is rewritten to depends on
nothing else.

The main statement is `search_shows_found`.
-/

variable {Memory Item : Type}

/-! ## What a visitor is shown -/

/-- How visiting ends after these verdicts, where these items are left to be
shown.  All verdicts but the last are to go on. -/
inductive Ends : (rest : List (Outcome Item)) -> List Verdict -> Outcome Unit -> Prop where
  /-- Every item has been shown. -/
  | finished {verdicts : List Verdict}
      (goesOn : forall verdict, verdict ∈ verdicts -> verdict = .goOn) :
      Ends [] verdicts (.ok ())
  /-- The next item could not be made. -/
  | unmade {verdicts : List Verdict} {failure : Failure} {others : List (Outcome Item)}
      (goesOn : forall verdict, verdict ∈ verdicts -> verdict = .goOn) :
      Ends (.error failure :: others) verdicts (.error failure)
  | stopped {rest : List (Outcome Item)} {verdicts : List Verdict}
      (goesOn : forall verdict, verdict ∈ verdicts -> verdict = .goOn) :
      Ends rest (verdicts ++ [.stop]) (.ok ())
  | givenUp {rest : List (Outcome Item)} {verdicts : List Verdict} {failure : Failure}
      (goesOn : forall verdict, verdict ∈ verdicts -> verdict = .goOn) :
      Ends rest (verdicts ++ [.giveUp failure]) (.error failure)

/-- What has been found is shown to the visitor from the beginning: it is
called with the items one after the other, and the last of its verdicts is how
the visiting ends.  If nothing could be found, for want of a matcher, it is
not called at all. -/
inductive Shows (visitor : Item -> Guest Memory Verdict) (memory : Memory) (workspace : Workspace) :
    Outcome (List (Outcome Item)) -> (Report Item × Memory) × Workspace -> Prop where
  | unfound (failure : Failure) :
      Shows visitor memory workspace (.error failure) ((⟨[], .error failure⟩, memory), workspace)
  | found {shown : List Item} {rest : List (Outcome Item)} {verdicts : List Verdict}
      {ending : Outcome Unit} {later : Memory} {left : Workspace}
      (called : ((shown.mapM visitor).run memory).run workspace = ((verdicts, later), left))
      (ends : Ends rest verdicts ending) :
      Shows visitor memory workspace (.ok (shown.map .ok ++ rest)) ((⟨shown, ending⟩, later), left)

theorem Ends.cons {rest : List (Outcome Item)} {verdicts : List Verdict} {ending : Outcome Unit}
    (ends : Ends rest verdicts ending) : Ends rest (.goOn :: verdicts) ending := by
  cases ends with
  | finished goesOn => exact .finished (List.forall_mem_cons.mpr ⟨rfl, goesOn⟩)
  | unmade goesOn => exact .unmade (List.forall_mem_cons.mpr ⟨rfl, goesOn⟩)
  | @stopped _ before goesOn =>
      rw [← List.cons_append]
      exact .stopped (List.forall_mem_cons.mpr ⟨rfl, goesOn⟩)
  | @givenUp _ before failure goesOn =>
      rw [← List.cons_append]
      exact .givenUp (List.forall_mem_cons.mpr ⟨rfl, goesOn⟩)

theorem run_mapM_cons (visitor : Item -> Guest Memory Verdict) (item : Item) (rest : List Item)
    (memory : Memory) (workspace : Workspace) :
    (((item :: rest).mapM visitor).run memory).run workspace =
      let ((verdict, later), left) := ((visitor item).run memory).run workspace
      let ((verdicts, last), final) := ((rest.mapM visitor).run later).run left
      ((verdict :: verdicts, last), final) := by
  rw [List.mapM_cons]
  rfl

theorem run_visitAll_cons (visitor : Item -> Guest Memory Verdict) (item : Item)
    (rest : List (Outcome Item)) (memory : Memory) (workspace : Workspace) :
    ((visitAll visitor (.ok item :: rest)).run memory).run workspace =
      let ((verdict, later), left) := ((visitor item).run memory).run workspace
      match verdict with
      | .stop => ((⟨[item], .ok ()⟩, later), left)
      | .giveUp failure => ((⟨[item], .error failure⟩, later), left)
      | .goOn =>
          let ((report, last), final) := ((visitAll visitor rest).run later).run left
          ((⟨item :: report.visited, report.ending⟩, last), final) := by
  rw [visitAll, showThen, StateT.run_bind, StateT.run_bind]
  rcases ((visitor item).run memory).run workspace with ⟨⟨verdict, later⟩, left⟩
  cases verdict <;> rfl

/-- Before the first item there is nothing to be said yet, so a search ends
there only if there are no items or the first could not be made. -/
theorem Shows.atOnce {visitor : Item -> Guest Memory Verdict} {memory : Memory}
    {workspace : Workspace} {items : List (Outcome Item)} {ending : Outcome Unit}
    (ends : Ends items [] ending) :
    Shows visitor memory workspace (.ok items) ((⟨[], ending⟩, memory), workspace) :=
  have shows : Shows visitor memory workspace (.ok (([] : List Item).map .ok ++ items))
      ((⟨[], ending⟩, memory), workspace) := .found rfl ends
  shows

/-- The first item is shown, and then others, if there are others to be
shown. -/
theorem Shows.next {visitor : Item -> Guest Memory Verdict} {memory later last : Memory}
    {workspace left final : Workspace} {item : Item} {shown : List Item}
    {rest : List (Outcome Item)} {verdict : Verdict} {verdicts : List Verdict}
    {ending : Outcome Unit}
    (visited : ((visitor item).run memory).run workspace = ((verdict, later), left))
    (called : ((shown.mapM visitor).run later).run left = ((verdicts, last), final))
    (ends : Ends rest (verdict :: verdicts) ending) :
    Shows visitor memory workspace (.ok (.ok item :: (shown.map .ok ++ rest)))
      ((⟨item :: shown, ending⟩, last), final) := by
  have calledAll : (((item :: shown).mapM visitor).run memory).run workspace =
      ((verdict :: verdicts, last), final) := by
    rw [run_mapM_cons, visited]
    dsimp only
    rw [called]
  exact .found calledAll ends

/-- Visiting shows the items, whatever the visitor says and does.  This goes
by induction on the items. -/
theorem shows_visitAll (visitor : Item -> Guest Memory Verdict) (items : List (Outcome Item))
    (memory : Memory) (workspace : Workspace) :
    Shows visitor memory workspace (.ok items)
      (((visitAll visitor items).run memory).run workspace) := by
  induction items generalizing memory workspace with
  | nil => exact .atOnce (.finished (List.forall_mem_nil _))
  | cons head rest inductiveHypothesis =>
      cases head with
      | error failure => exact .atOnce (.unmade (List.forall_mem_nil _))
      | ok item =>
          rw [run_visitAll_cons]
          rcases visited : ((visitor item).run memory).run workspace with ⟨⟨verdict, later⟩, left⟩
          have nobodyElse : ((([] : List Item).mapM visitor).run later).run left =
              (([], later), left) := rfl
          cases verdict with
          | stop =>
              have ends : Ends rest ([] ++ [.stop]) (.ok ()) := .stopped (List.forall_mem_nil _)
              exact .next visited nobodyElse ends
          | giveUp failure =>
              have ends : Ends rest ([] ++ [.giveUp failure]) (.error failure) :=
                .givenUp (List.forall_mem_nil _)
              exact .next visited nobodyElse ends
          | goOn =>
              have further := inductiveHypothesis later left
              dsimp only
              rcases ran : ((visitAll visitor rest).run later).run left with ⟨⟨report, last⟩, final⟩
              rw [ran] at further
              cases further with
              | found called ends => exact .next visited called ends.cons

theorem shows_visitFound (visitor : Item -> Guest Memory Verdict)
    (found : Outcome (List (Outcome Item))) (memory : Memory) (workspace : Workspace) :
    Shows visitor memory workspace found
      (((visitFound visitor found).run memory).run workspace) := by
  cases found with
  | error failure => exact .unfound failure
  | ok items => exact shows_visitAll visitor items memory workspace

/-! ## What is rewritten -/

/-- A match is rewritten alike by transforms to the same template, whatever
their expressions are. -/
theorem rewrite_congr {first second : Transform Pattern}
    (same : first.right.template = second.right.template) : first.rewrite = second.rewrite := by
  funext visit
  rw [Transform.rewrite, Transform.rewrite, Pattern.apply_eq_of_template same]

/-- No run changes a template, so the right-hand pattern writes what it would
have written before. -/
theorem Runs.template_pattern {first second : Workspace} {events : List Event} {place : Place}
    (runs : Runs first events second) (inside : place < first.patterns.size) :
    place < second.patterns.size ∧
      (second.pattern place).template = (first.pattern place).template := by
  rcases runs.accounts with ⟨_, ending⟩
  have held := getElem?_enterAll (getElem?_entries inside) events
  rw [← ending] at held
  have insideLater : place < second.patterns.size := by
    rw [← length_entries]
    exact (List.getElem?_eq_some_iff.mp held).1
  rw [getElem?_entries insideLater] at held
  exact ⟨insideLater, congrArg Entry.template (Option.some.inj held)⟩

/-- Compiling a pattern changes no template either, its own included. -/
theorem template_prepare (place other : Place) (workspace : Workspace) :
    ((prepare place workspace).pattern other).template = (workspace.pattern other).template := by
  have entry : ((prepare place workspace).pattern other).entry = (workspace.pattern other).entry := by
    rw [← entryAt_entries, entries_prepare, entryAt_entries]
  exact congrArg Entry.template entry

/-- Shows the visitor what a match is rewritten to by the right-hand pattern
as it is now. -/
def rewriting (transform : Transform Place) (visitor : Rewrite -> Guest Memory Verdict)
    (visit : Matcher.Visit) : Guest Memory Verdict := do
  match ((← getThe Workspace).resolve transform).rewrite visit with
  | .ok rewrite => visitor rewrite
  | .error failure => pure (.giveUp failure)

/-- What the visitor does can be done by running operations, one after the
other. -/
def OnlyRuns (visitor : Item -> Guest Memory Verdict) : Prop :=
  forall item memory workspace, ∃ events,
    Runs workspace events (afterGuest (visitor item) memory workspace)

theorem run_rewriting (transform : Transform Place) (visitor : Rewrite -> Guest Memory Verdict)
    (visit : Matcher.Visit) (memory : Memory) (workspace : Workspace) :
    ((rewriting transform visitor visit).run memory).run workspace =
      match (workspace.resolve transform).rewrite visit with
      | .ok rewrite => ((visitor rewrite).run memory).run workspace
      | .error failure => ((.giveUp failure, memory), workspace) := by
  rw [rewriting, StateT.run_bind, StateT.run_bind]
  change StateT.run (StateT.run (match (workspace.resolve transform).rewrite visit with
    | .ok rewrite => visitor rewrite
    | .error failure => pure (.giveUp failure)) memory) workspace = _
  cases (workspace.resolve transform).rewrite visit <;> rfl

/-- Two searches end alike and leave the same, whatever they have shown.  The
items may be of different kinds. -/
def EndAlike {Other : Type} (first : (Report Item × Memory) × Workspace)
    (second : (Report Other × Memory) × Workspace) : Prop :=
  first.1.1.ending = second.1.1.ending ∧ first.1.2 = second.1.2 ∧ first.2 = second.2

/-- Making the rewrites one by one, when each is shown, is making them
beforehand. -/
theorem endAlike_visitAll_rewriting {transform : Transform Place}
    {visitor : Rewrite -> Guest Memory Verdict} (onlyRuns : OnlyRuns visitor)
    {before : Transform Pattern} (visits : List Matcher.Visit) (memory : Memory)
    {workspace : Workspace} (inside : transform.right < workspace.patterns.size)
    (kept : (workspace.pattern transform.right).template = before.right.template) :
    EndAlike
      (((visitAll (rewriting transform visitor) (visits.map .ok)).run memory).run workspace)
      (((visitAll visitor (visits.map before.rewrite)).run memory).run workspace) := by
  induction visits generalizing memory workspace with
  | nil => exact ⟨rfl, rfl, rfl⟩
  | cons visit rest inductiveHypothesis =>
      have same : (workspace.resolve transform).rewrite = before.rewrite := rewrite_congr kept
      rw [List.map_cons, List.map_cons, run_visitAll_cons, run_rewriting, same]
      cases before.rewrite visit with
      | error failure => exact ⟨rfl, rfl, rfl⟩
      | ok rewrite =>
          rcases onlyRuns rewrite memory workspace with ⟨events, runs⟩
          rcases visited : ((visitor rewrite).run memory).run workspace with ⟨⟨verdict, later⟩, left⟩
          rw [afterGuest, visited] at runs
          rw [run_visitAll_cons]
          dsimp only
          rw [visited]
          cases verdict with
          | stop => exact ⟨rfl, rfl, rfl⟩
          | giveUp failure => exact ⟨rfl, rfl, rfl⟩
          | goOn =>
              rcases runs.template_pattern inside with ⟨insideLater, template⟩
              exact inductiveHypothesis later insideLater (template.trans kept)

/-- A search shows its visitor what would have been found had all matches been
asked for when the search began, whatever the visitor does to the patterns in
between: it is called with the first of these matches, in order, as long as it
says to go on, and what it says last is how the search ends.  A search through
a transform does the same with what the matches are rewritten to; if the
visitor does nothing but run operations, then it makes no difference whether a
match is rewritten before the search or by the right-hand pattern as it is
when the rewrite is shown. -/
theorem search_shows_found (workspace : Workspace) (text : String) (memory : Memory) :
    (forall (place : Place) (visitor : Matcher.Visit -> Guest Memory Verdict),
      Shows visitor memory (after (findAll place text) workspace)
        (((findAll place text).run.run workspace).1.map (List.map .ok))
        (((search place text visitor).run memory).run workspace)) ∧
    forall (transform : Transform Place) (visitor : Rewrite -> Guest Memory Verdict),
      Shows visitor memory (after (findAll transform.left text) workspace)
        (((findAll transform.left text).run.run workspace).1.map
          (List.map (workspace.resolve transform).rewrite))
        (((searchRewrites transform text visitor).run memory).run workspace) ∧
      (transform.right < workspace.patterns.size -> OnlyRuns visitor ->
        EndAlike
          (((search transform.left text (rewriting transform visitor)).run memory).run workspace)
          (((searchRewrites transform text visitor).run memory).run workspace)) := by
  refine ⟨fun place visitor => ?_, fun transform visitor => ?_⟩
  · rw [after, run_findAll, run_search]
    exact shows_visitFound visitor _ memory _
  · let prepared := prepare transform.left workspace
    have kept : (prepared.pattern transform.right).template =
        (workspace.pattern transform.right).template :=
      template_prepare transform.left transform.right workspace
    have same : (prepared.resolve transform).rewrite = (workspace.resolve transform).rewrite :=
      rewrite_congr kept
    constructor
    · rw [after, run_findAll, ← same, run_searchRewrites]
      exact shows_visitFound visitor _ memory prepared
    · intro inside onlyRuns
      have insidePrepared : transform.right < prepared.patterns.size := by
        rw [← length_entries, entries_prepare, length_entries]
        exact inside
      rw [run_search, run_searchRewrites]
      cases (prepared.pattern transform.left).findAll text with
      | error failure => exact ⟨rfl, rfl, rfl⟩
      | ok visits => exact endAlike_visitAll_rewriting onlyRuns visits memory insidePrepared rfl

def anglesExample : Workspace :=
  after (transformOfTemplates false "${x}" "<${x}>" [⟨"x", some "[ab]"⟩] false) .empty

def anglesTransform : Transform Place := ⟨0, 1, false, false⟩

/-- A visitor that rebinds the placeholders of both patterns, and stops at the
second letter. -/
def stoppingVisitor (rewrite : Rewrite) : Guest Unit Verdict := do
  let _ ← (rebind 0 "x" (some "c")).run
  let _ ← (rebind 1 "x" none).run
  pure (if rewrite.start = 1 then .stop else .goOn)

theorem afterGuest_both (first second : Action Unit) (verdict : Verdict) (memory : Memory)
    (workspace : Workspace) :
    afterGuest (do
        let _ ← first.run
        let _ ← second.run
        pure verdict : Guest Memory Verdict) memory workspace =
      after second (after first workspace) :=
  rfl

theorem onlyRuns_stoppingVisitor : OnlyRuns stoppingVisitor := by
  intro rewrite memory workspace
  rw [stoppingVisitor, afterGuest_both]
  exact ⟨_, (Runs.rebind workspace 0 "x" (some "c")).trans (.rebind _ 1 "x" none)⟩

theorem search_shows_found_stoppedExample :
    anglesTransform.right < anglesExample.patterns.size ∧ OnlyRuns stoppingVisitor ∧
      (((searchRewrites anglesTransform "aba" stoppingVisitor).run ()).run anglesExample).1.1.visited =
        [⟨0, 1, "<a>"⟩, ⟨1, 2, "<b>"⟩] ∧
      EndAlike
        (((search anglesTransform.left "aba" (rewriting anglesTransform stoppingVisitor)).run ()).run
          anglesExample)
        (((searchRewrites anglesTransform "aba" stoppingVisitor).run ()).run anglesExample) := by
  have inside : anglesTransform.right < anglesExample.patterns.size := by
    decide +kernel
  have visited : (((searchRewrites anglesTransform "aba" stoppingVisitor).run ()).run
      anglesExample).1.1.visited = [⟨0, 1, "<a>"⟩, ⟨1, 2, "<b>"⟩] := by
    decide +kernel
  have alike := ((search_shows_found anglesExample "aba" ()).2 anglesTransform stoppingVisitor).2
    inside onlyRuns_stoppingVisitor
  exact ⟨inside, onlyRuns_stoppingVisitor, visited, alike⟩

end Workspace
end Stencil

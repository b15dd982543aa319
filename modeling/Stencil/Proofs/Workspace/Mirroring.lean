import Stencil.Proofs.Transform.Mirroring
import Stencil.Proofs.Workspace.Checking
import Stencil.Proofs.Workspace.Representation

namespace Stencil
namespace Workspace

/-!
Mirrored transforms in use.  The reverse of a transform between two templates
with the same names, and the transform between the same templates the other
way round, consist of the same patterns, though at other places and in other
workspaces.  That is all that matters: whatever is done to the one and to the
other, in the same order, comes to the same, and leaves them with the same
patterns.

`Alike` says that two transforms have come to the same so far, and `Abreast`
that two actions keep them so.  There is one lemma for each action, and from
them one for everything that a search does with its visitor.  The main
statement is `reverse_mirrors_swap`.
-/

variable {Memory Item Value Other : Type} {first second transform : Transform Place}
  {workspace here there : Workspace}

/-- Both patterns of the transform are there, at places of their own.  If they
were the same pattern, binding one would bind the other. -/
structure Holds (workspace : Workspace) (transform : Transform Place) : Prop where
  left : transform.left < workspace.patterns.size
  right : transform.right < workspace.patterns.size
  apart : transform.left ≠ transform.right

/-- The transforms have the same patterns, each in its workspace, and the same
has been reported.  The places of the patterns may differ, and so may
everything else in the two workspaces. -/
structure Alike (first second : Transform Place) (here there : Workspace) : Prop where
  resolved : here.resolve first = there.resolve second
  transcript : here.transcript = there.transcript
  first : Holds here first
  second : Holds there second

/-- The actions, one for each transform, have the same result and leave the
transforms alike, wherever these are alike to begin with.  So one can be done
after another. -/
def Abreast (first second : Transform Place) (action other : StateM Workspace Value) : Prop :=
  forall here there, Alike first second here there ->
    (action.run here).1 = (other.run there).1 ∧
      Alike first second (action.run here).2 (other.run there).2

def alone (action : StateM Memory Value) : Guest Memory Value :=
  modifyGet action.run

/-- What can be done with the one transform and with the other comes to the
same: rewriting, searching, replacing, and binding the placeholders of either
side. -/
structure Mirrors (first second : Transform Place) : Prop where
  apply : forall text, Abreast first second (applyTransform first text).run
    (applyTransform second text).run
  replace : forall text, Abreast first second (replace first text).run (replace second text).run
  /-- A visitor with a memory of its own is shown the same, and ends both searches in the same way. -/
  search : forall {Memory : Type} (text : String) (visitor : Rewrite -> StateM Memory Verdict)
    (memory : Memory),
    Abreast first second ((searchRewrites first text fun rewrite => alone (visitor rewrite)).run memory)
      ((searchRewrites second text fun rewrite => alone (visitor rewrite)).run memory)
  /-- So are two visitors, one for each transform, that do the same to it. -/
  searchTogether : forall {Memory : Type} (text : String)
    (visitor other : Rewrite -> Guest Memory Verdict) (memory : Memory),
    (forall rewrite memory,
      Abreast first second ((visitor rewrite).run memory) ((other rewrite).run memory)) ->
    Abreast first second ((searchRewrites first text visitor).run memory)
      ((searchRewrites second text other).run memory)
  rebindLeft : forall name expression, Abreast first second
    (rebind first.left name expression).run (rebind second.left name expression).run
  rebindRight : forall name expression, Abreast first second
    (rebind first.right name expression).run (rebind second.right name expression).run

/-! ## Transforms that are alike -/

theorem Holds.reverse (holds : Holds workspace transform) : Holds workspace transform.reverse where
  left := holds.right
  right := holds.left
  apart := holds.apart.symm

theorem Holds.setPattern (holds : Holds workspace transform) (place : Place) (pattern : Pattern) :
    Holds (workspace.setPattern place pattern) transform := by
  have size : (workspace.setPattern place pattern).patterns.size = workspace.patterns.size :=
    Array.size_setIfInBounds
  exact ⟨size ▸ holds.left, size ▸ holds.right, holds.apart⟩

/-- Another pattern on the left-hand side leaves the right-hand side as it
is. -/
theorem Holds.resolve_setPattern (holds : Holds workspace transform) (pattern : Pattern) :
    (workspace.setPattern transform.left pattern).resolve transform =
      { workspace.resolve transform with left := pattern } := by
  rw [resolve, resolve, Transform.map, pattern_setPattern_self holds.left,
    pattern_setPattern_of_ne holds.apart]
  rfl

theorem resolve_reverse (workspace : Workspace) (transform : Transform Place) :
    workspace.resolve transform.reverse = (workspace.resolve transform).reverse :=
  rfl

theorem Alike.reverse (alike : Alike first second here there) :
    Alike first.reverse second.reverse here there where
  resolved := congrArg Transform.reverse alike.resolved
  transcript := alike.transcript
  first := alike.first.reverse
  second := alike.second.reverse

theorem Alike.left (alike : Alike first second here there) :
    here.pattern first.left = there.pattern second.left :=
  congrArg Transform.left alike.resolved

theorem Alike.setPattern (alike : Alike first second here there) (pattern : Pattern) :
    Alike first second (here.setPattern first.left pattern) (there.setPattern second.left pattern) where
  resolved := by
    rw [alike.first.resolve_setPattern, alike.second.resolve_setPattern, alike.resolved]
  transcript := alike.transcript
  first := alike.first.setPattern first.left pattern
  second := alike.second.setPattern second.left pattern

theorem Alike.prepare (alike : Alike first second here there) :
    Alike first second (prepare first.left here) (prepare second.left there) := by
  rw [Workspace.prepare, Workspace.prepare, alike.left]
  exact alike.setPattern _

theorem Alike.appendReport (alike : Alike first second here there) (report : String) :
    Alike first second (here.appendReport report) (there.appendReport report) where
  resolved := alike.resolved
  transcript := congrArg (· ++ report) alike.transcript
  first := ⟨alike.first.left, alike.first.right, alike.first.apart⟩
  second := ⟨alike.second.left, alike.second.right, alike.second.apart⟩

/-! ## What keeps them so -/

theorem Abreast.pure (value : Value) :
    Abreast first second (Pure.pure value : StateM Workspace Value) (Pure.pure value) :=
  fun _ _ alike => ⟨rfl, alike⟩

/-- What is done abreast to the reverses is done abreast, so only one
direction has to be looked at. -/
theorem Abreast.ofReverse {action other : StateM Workspace Value}
    (abreast : Abreast first.reverse second.reverse action other) :
    Abreast first second action other := by
  intro here there alike
  rcases abreast here there alike.reverse with ⟨result, left⟩
  exact ⟨result, left.reverse⟩

theorem abreast_alone (action : StateM Memory Value) (memory : Memory) :
    Abreast first second ((alone action).run memory) ((alone action).run memory) :=
  .pure (action.run memory)

theorem abreast_rebind (name : String) (expression : Option String) :
    Abreast first second (rebind first.left name expression).run
      (rebind second.left name expression).run := by
  intro here there alike
  rw [run_rebind, run_rebind, alike.left]
  cases (there.pattern second.left).rebind name expression with
  | error failure => exact ⟨rfl, alike⟩
  | ok rebound => exact ⟨rfl, alike.setPattern rebound⟩

theorem abreast_rewriteBy (rewrite : Transform Pattern -> String -> Outcome String) (text : String) :
    Abreast first second (rewriteBy rewrite first text).run (rewriteBy rewrite second text).run := by
  intro here there alike
  rw [run_rewriteBy_eq, run_rewriteBy_eq, alike.prepare.resolved]
  exact ⟨rfl, alike.prepare.appendReport _⟩

section

variable {visitor other : Item -> Guest Memory Verdict}

/-- Visitors that go abreast are shown the same, as long as they go on, and
give the same verdicts. -/
theorem abreast_visitAll
    (together : forall item memory,
      Abreast first second ((visitor item).run memory) ((other item).run memory))
    (items : List (Outcome Item)) (memory : Memory) :
    Abreast first second ((visitAll visitor items).run memory)
      ((visitAll other items).run memory) := by
  induction items generalizing memory with
  | nil => exact .pure _
  | cons head rest inductiveHypothesis =>
      cases head with
      | error failure => exact .pure _
      | ok item =>
          intro here there alike
          rcases together item memory here there alike with ⟨result, left⟩
          rw [run_visitAll_cons, run_visitAll_cons]
          rcases ran : ((visitor item).run memory).run here with ⟨⟨verdict, later⟩, hereLeft⟩
          rcases otherRan : ((other item).run memory).run there with ⟨⟨_, _⟩, thereLeft⟩
          rw [ran, otherRan] at result left
          cases result
          cases verdict with
          | stop => exact ⟨rfl, left⟩
          | giveUp failure => exact ⟨rfl, left⟩
          | goOn =>
              rcases inductiveHypothesis later hereLeft thereLeft left with ⟨results, lefts⟩
              let longer (ended : Report Item × Memory) : Report Item × Memory :=
                (⟨item :: ended.1.visited, ended.1.ending⟩, ended.2)
              exact ⟨congrArg longer results, lefts⟩

theorem abreast_visitFound
    (together : forall item memory,
      Abreast first second ((visitor item).run memory) ((other item).run memory))
    (found : Outcome (List (Outcome Item))) (memory : Memory) :
    Abreast first second ((visitFound visitor found).run memory)
      ((visitFound other found).run memory) := by
  cases found with
  | error failure => exact .pure _
  | ok items => exact abreast_visitAll together items memory

end

theorem abreast_searchRewrites {visitor other : Rewrite -> Guest Memory Verdict}
    (together : forall rewrite memory,
      Abreast first second ((visitor rewrite).run memory) ((other rewrite).run memory))
    (text : String) (memory : Memory) :
    Abreast first second ((searchRewrites first text visitor).run memory)
      ((searchRewrites second text other).run memory) := by
  intro here there alike
  rw [run_searchRewrites, run_searchRewrites, alike.prepare.left, alike.prepare.resolved]
  exact abreast_visitFound together _ memory _ _ alike.prepare

theorem mirrors (first second : Transform Place) : Mirrors first second where
  apply := abreast_rewriteBy Transform.apply
  replace := abreast_rewriteBy Transform.replace
  search := fun text visitor memory =>
    abreast_searchRewrites (fun rewrite => abreast_alone (visitor rewrite)) text memory
  searchTogether := fun text _ _ memory together => abreast_searchRewrites together text memory
  rebindLeft := abreast_rebind
  rebindRight := fun name expression => (abreast_rebind name expression).ofReverse

/-! ## The transform and its mirror -/

section

variable {left right : String} {bindings : List (Binding (Option String))} {checked verbose : Bool}

theorem holds_addPattern (workspace : Workspace) (left right : Pattern) (verbose checked : Bool) :
    Holds ((workspace.addPattern left).addPattern right)
      ⟨workspace.patterns.size, workspace.patterns.size + 1, verbose, checked⟩ := by
  have size : ((workspace.addPattern left).addPattern right).patterns.size =
      workspace.patterns.size + 2 := by
    simp only [addPattern, Array.size_push]
  constructor
  case left =>
    rw [size]
    exact Nat.lt_succ_of_lt (Nat.lt_succ_self _)
  case right =>
    rw [size]
    exact Nat.lt_succ_self _
  case apart => exact Nat.ne_of_lt (Nat.lt_succ_self _)

/-- Transforms that are made with the same patterns, but for the direction,
begin alike. -/
theorem exists_alike {resolved : Transform Pattern} {later : Workspace}
    (made : Transform.ofTemplates checked left right bindings verbose = .ok resolved)
    (swapped : Transform.ofTemplates checked right left bindings verbose = .ok resolved.reverse)
    (done : (transformOfTemplates checked left right bindings verbose).run.run workspace =
      (.ok transform, later))
    {other : Workspace} (reports : other.transcript = workspace.transcript) :
    ∃ mirror last,
      (transformOfTemplates checked right left bindings verbose).run.run other = (.ok mirror, last) ∧
        Alike transform.reverse mirror later last := by
  rw [run_transformOfTemplates made] at done
  cases done
  refine ⟨_, _, run_transformOfTemplates swapped other, ?_⟩
  constructor
  case resolved =>
    rw [resolve_addPattern other resolved.reverse, resolve_reverse, resolve_addPattern]
  case transcript => exact reports.symm
  case first => exact (holds_addPattern workspace _ _ _ _).reverse
  case second => exact holds_addPattern other _ _ _ _

/-- The command rewrites with the reverse as it would with the templates
exchanged. -/
theorem rewriteText_swap
    (swapped : Transform.ofTemplates checked right left bindings verbose =
      (Transform.ofTemplates checked left right bindings verbose).map Transform.reverse)
    (text : String) :
    CommandLine.rewriteText text left right bindings checked true verbose =
      CommandLine.rewriteText text right left bindings checked false verbose := by
  rw [CommandLine.rewriteText, CommandLine.rewriteText, swapped]
  cases Transform.ofTemplates checked left right bindings verbose with
  | error failure => dsimp only [Except.map, bind, Except.bind]
  | ok transform =>
      dsimp only [Except.map, bind, Except.bind]
      rw [if_pos rfl, if_neg Bool.false_ne_true]

end

/-- If a transform can be made between two templates with the same names, then
it can be made between them the other way round, and does what the reverse of
the first one does.  Its patterns are the same, and whatever is done with
either of them from there on, one after the other, has the same results: it
rewrites, searches and replaces alike, reports the same, and remains alike
when it is bound otherwise.  The command rewrites in reverse what it would
rewrite with the templates exchanged. -/
theorem reverse_mirrors_swap {checked verbose : Bool} {left right : String}
    {leftTemplate rightTemplate : Template} {bindings : List (Binding (Option String))}
    {workspace later : Workspace} {transform : Transform Place}
    (leftRead : Template.parse left = .ok leftTemplate)
    (rightRead : Template.parse right = .ok rightTemplate)
    (same : forall name, name ∈ leftTemplate.names ↔ name ∈ rightTemplate.names)
    (done : (transformOfTemplates checked left right bindings verbose).run.run workspace =
      (.ok transform, later))
    (other : Workspace) (reports : other.transcript = workspace.transcript) :
    (∃ mirror last,
      (transformOfTemplates checked right left bindings verbose).run.run other = (.ok mirror, last) ∧
        last.resolve mirror = later.resolve transform.reverse ∧
        Alike transform.reverse mirror later last ∧ Mirrors transform.reverse mirror) ∧
    forall (text : String) (check : Bool),
      CommandLine.rewriteText text left right bindings check true verbose =
        CommandLine.rewriteText text right left bindings check false verbose := by
  cases made : Transform.ofTemplates checked left right bindings verbose with
  | error failure =>
      rw [run_transformOfTemplates_of_error made] at done
      cases done
  | ok resolved =>
      have plain : ∃ plain, Transform.ofTemplates false left right bindings verbose = .ok plain := by
        cases checked with
        | false => exact ⟨resolved, made⟩
        | true =>
            rcases Transform.ofTemplates_eq_of_checked made with ⟨plain, plainMade, _⟩
            exact ⟨plain, plainMade⟩
      rcases plain with ⟨plain, plainMade⟩
      have swap := Transform.ofTemplates_swap leftRead rightRead same plainMade
      have swapped := swap checked
      rw [made] at swapped
      rcases exists_alike made swapped done reports with ⟨mirror, last, mirrorDone, alike⟩
      exact ⟨⟨mirror, last, mirrorDone, alike.resolved.symm, alike, mirrors _ _⟩,
        fun text check => rewriteText_swap (swap check) text⟩

def reboundBindings : List (Binding (Option String)) :=
  [⟨"x", some "[cd]"⟩, ⟨"y", some "c"⟩, ⟨"x", some "[ab]"⟩]

theorem reverse_mirrors_swap_reboundExample :
    ∃ transform later mirror last,
      (transformOfTemplates false "${x}-${y}-${x}" "${y}${x}${x}" reboundBindings false).run.run
        .empty = (.ok transform, later) ∧
      (transformOfTemplates false "${y}${x}${x}" "${x}-${y}-${x}" reboundBindings false).run.run later =
        (.ok mirror, last) ∧
      last.resolve mirror = later.resolve transform.reverse ∧
      ((replace transform.reverse "cab").run.run later).1 =
        ((replace mirror "cab").run.run last).1 ∧
      CommandLine.rewriteText "cab" "${x}-${y}-${x}" "${y}${x}${x}" reboundBindings false true false =
        CommandLine.rewriteText "cab" "${y}${x}${x}" "${x}-${y}-${x}" reboundBindings false false
          false ∧
      (CommandLine.rewriteText "cab" "${x}-${y}-${x}" "${y}${x}${x}" reboundBindings false true
        false).toOption = some ("a-c-b", "") := by
  let leftTemplate : Template := ⟨[("", "x"), ("-", "y"), ("-", "x")], ""⟩
  let rightTemplate : Template := ⟨[("", "y"), ("", "x"), ("", "x")], ""⟩
  have leftRead : (Template.parse "${x}-${y}-${x}").toOption = some leftTemplate := by
    decide +kernel
  have rightRead : (Template.parse "${y}${x}${x}").toOption = some rightTemplate := by
    decide +kernel
  have makes : (Transform.ofTemplates false "${x}-${y}-${x}" "${y}${x}${x}" reboundBindings
      false).toOption.isSome = true := by
    decide +kernel
  have rewritten : (CommandLine.rewriteText "cab" "${x}-${y}-${x}" "${y}${x}${x}" reboundBindings
      false true false).toOption = some ("a-c-b", "") := by
    decide +kernel
  rw [Except.toOption_eq_some_iff] at leftRead rightRead
  rcases Except.exists_ok_of_isSome makes with ⟨resolved, made⟩
  have same (name : String) : name ∈ leftTemplate.names ↔ name ∈ rightTemplate.names := by
    simp only [leftTemplate, rightTemplate, Template.names, List.map_cons, List.map_nil,
      List.mem_cons]
    tauto
  have done := run_transformOfTemplates made .empty
  rcases reverse_mirrors_swap leftRead rightRead same done
    ((Workspace.empty.addPattern resolved.left).addPattern resolved.right) rfl with
    ⟨⟨mirror, last, mirrorDone, patterns, alike, mirrors⟩, command⟩
  exact ⟨_, _, mirror, last, done, mirrorDone, patterns, (mirrors.replace "cab" _ _ alike).1,
    command "cab" false, rewritten⟩

end Workspace
end Stencil

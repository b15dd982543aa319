import Stencil.CommandLine.Run
import Stencil.Proofs.Workspace.Replacing

namespace Stencil
namespace Workspace

/-!
Checked transforms in use.  Nothing that is done with a transform asks whether
it has been checked, so a checked transform and the plain one between the same
templates do the same, in either direction, and the command does the same with
the check and without it unless the check refuses.

What the check has found stays true.  It is about the templates of the two
patterns, and no run changes a template; so however a workspace has been
changed since, the two patterns of a checked transform name every placeholder
equally often.

The main statement is `checked_refines_plain`.
-/

/-! ## Doing the same -/

/-- Wherever they are used, the transforms do the same: they end alike, and
they leave the same workspace. -/
structure DoAlike (first second : Transform Place) : Prop where
  apply : forall (workspace : Workspace) (text : String),
    (applyTransform first text).run.run workspace = (applyTransform second text).run.run workspace
  replace : forall (workspace : Workspace) (text : String),
    (replace first text).run.run workspace = (replace second text).run.run workspace
  search : forall {Memory : Type} (workspace : Workspace) (text : String)
    (visitor : Rewrite -> Guest Memory Verdict) (memory : Memory),
    ((searchRewrites first text visitor).run memory).run workspace =
      ((searchRewrites second text visitor).run memory).run workspace

/-- Whether a transform has been checked makes no difference to what it
does. -/
theorem doAlike_checked (left right : Place) (verbose first second : Bool) :
    DoAlike ⟨left, right, verbose, first⟩ ⟨left, right, verbose, second⟩ where
  apply := fun _ _ => rfl
  replace := fun _ _ => rfl
  search := fun _ _ _ _ => rfl

/-! ## Checked transforms -/

/-- The transform has been checked, and the workspace is one that it has come
to since.  It may have been checked when it was made or later, and it may be
the reverse of one that was. -/
inductive Certified : Transform Place -> Workspace -> Prop where
  | made {workspace later : Workspace} {left right : String}
      {bindings : List (Binding (Option String))} {verbose : Bool} {transform : Transform Place}
      (done : (transformOfTemplates true left right bindings verbose).run.run workspace =
        (.ok transform, later)) :
      Certified transform later
  | check {workspace later : Workspace} {transform checked : Transform Place}
      (left : transform.left < workspace.patterns.size)
      (right : transform.right < workspace.patterns.size)
      (done : (check transform).run.run workspace = (.ok checked, later)) :
      Certified checked later
  | reverse {workspace : Workspace} {transform : Transform Place}
      (certified : Certified transform workspace) : Certified transform.reverse workspace
  | runs {workspace later : Workspace} {transform : Transform Place} {events : List Event}
      (certified : Certified transform workspace) (runs : Runs workspace events later) :
      Certified transform later

/-- The transform is marked as checked, both its patterns are there, and they
name every placeholder equally often.  Templates never change, so this cannot
be lost. -/
structure IsBalanced (transform : Transform Place) (workspace : Workspace) : Prop where
  checked : transform.checked = true
  left : transform.left < workspace.patterns.size
  right : transform.right < workspace.patterns.size
  counts : forall name, (workspace.pattern transform.left).template.names.count name =
    (workspace.pattern transform.right).template.names.count name

namespace IsBalanced

variable {transform : Transform Place} {workspace later : Workspace}

theorem reverse (balanced : IsBalanced transform workspace) :
    IsBalanced transform.reverse workspace where
  checked := balanced.checked
  left := balanced.right
  right := balanced.left
  counts := fun name => (balanced.counts name).symm

/-- No run changes a template, so what is balanced stays so. -/
theorem runs {events : List Event} (balanced : IsBalanced transform workspace)
    (runs : Runs workspace events later) : IsBalanced transform later := by
  rcases runs.template_pattern balanced.left with ⟨left, leftTemplate⟩
  rcases runs.template_pattern balanced.right with ⟨right, rightTemplate⟩
  constructor
  case checked => exact balanced.checked
  case left => exact left
  case right => exact right
  case counts =>
    intro name
    rw [leftTemplate, rightTemplate]
    exact balanced.counts name

theorem sameNames (balanced : IsBalanced transform workspace) :
    Binding.sameNames (workspace.pattern transform.left).bindings
      (workspace.pattern transform.right).bindings = true := by
  rw [Binding.sameNames_iff_count, Pattern.names_bindings, Pattern.names_bindings]
  exact balanced.counts

/-- What passes the check is balanced, if both its patterns are there. -/
theorem of_check {resolved : Transform Pattern} (left : transform.left < workspace.patterns.size)
    (right : transform.right < workspace.patterns.size)
    (passes : (workspace.resolve transform).check = .ok resolved) :
    IsBalanced { transform with checked := resolved.checked } workspace := by
  unfold Transform.check at passes
  split at passes
  · rename_i same
    cases passes
    constructor
    case checked => rfl
    case left => exact left
    case right => exact right
    case counts =>
      intro name
      have counts := Binding.sameNames_iff_count.mp same name
      rw [Pattern.names_bindings, Pattern.names_bindings] at counts
      exact counts
  · cases passes

end IsBalanced

theorem run_transformOfTemplates_of_error {checked : Bool} {left right : String}
    {bindings : List (Binding (Option String))} {verbose : Bool} {failure : Failure}
    (failed : Transform.ofTemplates checked left right bindings verbose = .error failure)
    (workspace : Workspace) :
    (transformOfTemplates checked left right bindings verbose).run.run workspace =
      (.error failure, workspace) := by
  apply (run_attempt (Transform.ofTemplates checked left right bindings verbose) addTransform
    workspace).trans
  rw [failed]

theorem isBalanced_of_made {workspace later : Workspace} {left right : String}
    {bindings : List (Binding (Option String))} {verbose : Bool} {transform : Transform Place}
    (done : (transformOfTemplates true left right bindings verbose).run.run workspace =
      (.ok transform, later)) : IsBalanced transform later := by
  cases made : Transform.ofTemplates true left right bindings verbose with
  | error failure =>
      rw [run_transformOfTemplates_of_error made] at done
      cases done
  | ok resolved =>
      rcases exists_made made workspace with ⟨places, other, ran, held, left, right⟩
      rw [ran] at done
      cases done
      have leftHeld : later.pattern transform.left = resolved.left := congrArg Transform.left held
      have rightHeld : later.pattern transform.right = resolved.right :=
        congrArg Transform.right held
      rcases Transform.ofTemplates_eq_of_checked made with ⟨plain, _, marked⟩
      constructor
      case checked => exact (congrArg Transform.checked held).trans (congrArg _ marked)
      case left => exact left
      case right => exact right
      case counts =>
        rw [leftHeld, rightHeld]
        exact (Transform.ofTemplates_eq_ok made).2.2

theorem isBalanced_of_check {workspace later : Workspace} {transform checked : Transform Place}
    (left : transform.left < workspace.patterns.size)
    (right : transform.right < workspace.patterns.size)
    (done : (check transform).run.run workspace = (.ok checked, later)) :
    IsBalanced checked later := by
  rw [run_check] at done
  cases passes : (workspace.resolve transform).check with
  | error failure =>
      rw [passes] at done
      cases done
  | ok resolved =>
      rw [passes] at done
      cases done
      exact .of_check left right passes

/-- The patterns of a checked transform are balanced, however the workspace
has been changed since. -/
theorem Certified.isBalanced {transform : Transform Place} {workspace : Workspace}
    (certified : Certified transform workspace) : IsBalanced transform workspace := by
  induction certified with
  | made done => exact isBalanced_of_made done
  | check left right done => exact isBalanced_of_check left right done
  | reverse _ inductiveHypothesis => exact inductiveHypothesis.reverse
  | runs _ runs inductiveHypothesis => exact inductiveHypothesis.runs runs

/-! ## The check and what it lets through -/

section

variable {left right : String} {bindings : List (Binding (Option String))} {verbose : Bool}

/-- With the check the command rewrites as it does without, if the check lets
the transform through. -/
theorem rewriteText_checked {transform : Transform Pattern}
    (made : Transform.ofTemplates true left right bindings verbose = .ok transform) (text : String)
    (reverse : Bool) :
    CommandLine.rewriteText text left right bindings true reverse verbose =
      CommandLine.rewriteText text left right bindings false reverse verbose := by
  rcases Transform.ofTemplates_eq_of_checked made with ⟨plain, plainMade, rfl⟩
  unfold CommandLine.rewriteText
  rw [made, plainMade]
  cases reverse <;> rfl

theorem rewriteText_refused {failure : Failure}
    (refused : Transform.ofTemplates true left right bindings verbose = .error failure)
    (text : String) (reverse : Bool) :
    CommandLine.rewriteText text left right bindings true reverse verbose = .error failure := by
  unfold CommandLine.rewriteText
  rw [refused]
  rfl

/-- In a workspace too, what the check lets through does what the plain
transform does. -/
theorem doAlike_of_made {workspace laterPlain laterChecked : Workspace}
    {plain checked : Transform Place}
    (plainDone : (transformOfTemplates false left right bindings verbose).run.run workspace =
      (.ok plain, laterPlain))
    (checkedDone : (transformOfTemplates true left right bindings verbose).run.run workspace =
      (.ok checked, laterChecked)) :
    laterPlain = laterChecked ∧ DoAlike plain checked ∧ DoAlike plain.reverse checked.reverse := by
  cases made : Transform.ofTemplates true left right bindings verbose with
  | error failure =>
      rw [run_transformOfTemplates_of_error made] at checkedDone
      cases checkedDone
  | ok transform =>
      rcases Transform.ofTemplates_eq_of_checked made with ⟨resolved, plainMade, rfl⟩
      rw [run_transformOfTemplates made] at checkedDone
      rw [run_transformOfTemplates plainMade] at plainDone
      cases checkedDone
      cases plainDone
      exact ⟨rfl, doAlike_checked _ _ _ _ _, doAlike_checked _ _ _ _ _⟩

end

/-- A checked transform is refused where the plain one is, for the same
reason, or for want of reversibility if a placeholder of the right-hand
template is unknown; otherwise it is made if and only if the patterns bind
every name equally often, and then it does what the plain one does, in either
direction.  So with the check the command fails as the making does, or does
what it does without.  The patterns of a checked transform, or of the reverse
of one, name every placeholder equally often, whatever is bound later. -/
theorem checked_refines_plain (left right : String) (bindings : List (Binding (Option String)))
    (verbose : Bool) :
    Checks bindings right (Transform.ofTemplates false left right bindings verbose)
      (Transform.ofTemplates true left right bindings verbose) ∧
    (forall (workspace : Workspace) (checked : Bool),
      (forall failure, Transform.ofTemplates checked left right bindings verbose = .error failure ->
        (transformOfTemplates checked left right bindings verbose).run.run workspace =
          (.error failure, workspace)) ∧
      forall transform, Transform.ofTemplates checked left right bindings verbose = .ok transform ->
        ∃ places later,
          (transformOfTemplates checked left right bindings verbose).run.run workspace =
            (.ok places, later) ∧ later.resolve places = transform) ∧
    (forall (workspace laterPlain laterChecked : Workspace) (plain checked : Transform Place),
      (transformOfTemplates false left right bindings verbose).run.run workspace =
        (.ok plain, laterPlain) ->
      (transformOfTemplates true left right bindings verbose).run.run workspace =
        (.ok checked, laterChecked) ->
      laterPlain = laterChecked ∧ DoAlike plain checked ∧ DoAlike plain.reverse checked.reverse) ∧
    (forall (text : String) (reverse : Bool),
      (forall failure, Transform.ofTemplates true left right bindings verbose = .error failure ->
        CommandLine.rewriteText text left right bindings true reverse verbose = .error failure) ∧
      forall transform, Transform.ofTemplates true left right bindings verbose = .ok transform ->
        CommandLine.rewriteText text left right bindings true reverse verbose =
          CommandLine.rewriteText text left right bindings false reverse verbose) ∧
    forall (transform : Transform Place) (workspace : Workspace), Certified transform workspace ->
      transform.checked = true ∧
      (forall name, (workspace.pattern transform.left).template.names.count name =
        (workspace.pattern transform.right).template.names.count name) ∧
      Binding.sameNames (workspace.pattern transform.left).bindings
        (workspace.pattern transform.right).bindings = true := by
  refine ⟨Transform.ofTemplates_checks left right bindings verbose, ?_, ?_, ?_, ?_⟩
  · intro workspace checked
    constructor
    · exact fun failure failed => run_transformOfTemplates_of_error failed workspace
    · intro transform made
      rcases exists_made made workspace with ⟨places, later, ran, held, _⟩
      exact ⟨places, later, ran, held⟩
  · intro workspace laterPlain laterChecked plain checked plainDone checkedDone
    exact doAlike_of_made plainDone checkedDone
  · intro text reverse
    constructor
    · exact fun failure refused => rewriteText_refused refused text reverse
    · exact fun transform made => rewriteText_checked made text reverse
  · intro transform workspace certified
    have balanced := certified.isBalanced
    exact ⟨balanced.checked, balanced.counts, balanced.sameNames⟩

def swappedBindings : List (Binding (Option String)) :=
  [⟨"x", some "[ab]"⟩, ⟨"y", some "[cd]"⟩]

theorem checked_refines_plain_swappedExample :
    ∃ resolved plain checked middle later,
      Transform.ofTemplates true "${x}-${y}" "${y}${x}" swappedBindings false = .ok resolved ∧
        (transformOfTemplates false "${x}-${y}" "${y}${x}" swappedBindings false).run.run .empty =
          (.ok plain, middle) ∧
        (transformOfTemplates true "${x}-${y}" "${y}${x}" swappedBindings false).run.run .empty =
          (.ok checked, middle) ∧
        DoAlike plain checked ∧
        CommandLine.rewriteText "ca" "${x}-${y}" "${y}${x}" swappedBindings true true false =
          CommandLine.rewriteText "ca" "${x}-${y}" "${y}${x}" swappedBindings false true false ∧
        later = after (rebind checked.left "x" none) middle ∧ Certified checked.reverse later ∧
        (later.pattern checked.right).template.names.count "x" =
          (later.pattern checked.left).template.names.count "x" := by
  have makes : (Transform.ofTemplates true "${x}-${y}" "${y}${x}" swappedBindings
      false).toOption.isSome = true := by
    decide +kernel
  rcases Except.exists_ok_of_isSome makes with ⟨resolved, made⟩
  rcases Transform.ofTemplates_eq_of_checked made with ⟨unchecked, plainMade, _⟩
  rcases checked_refines_plain "${x}-${y}" "${y}${x}" swappedBindings false with
    ⟨_, places, alike, command, kept⟩
  rcases (places .empty false).2 unchecked plainMade with ⟨plain, middle, plainDone, _⟩
  rcases (places .empty true).2 resolved made with ⟨checked, other, checkedDone, _⟩
  rcases alike .empty middle other plain checked plainDone checkedDone with ⟨rfl, same, _⟩
  have certified : Certified checked.reverse (after (rebind checked.left "x" none) middle) :=
    .runs (.reverse (.made checkedDone)) (.rebind middle checked.left "x" none)
  have counts := (kept _ _ certified).2.1 "x"
  exact ⟨resolved, plain, checked, middle, _, made, plainDone, checkedDone, same,
    (command "ca" true).2 resolved made, rfl, certified, counts⟩

end Workspace
end Stencil

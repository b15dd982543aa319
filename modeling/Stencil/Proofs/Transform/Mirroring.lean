import Stencil.Proofs.Pattern.Making
import Stencil.Proofs.Transform.Checking
import Stencil.Proofs.Workspace.Coherence

namespace Stencil

/-!
Transforms the other way round.  The rules of a transform between two
templates are bound on its left-hand side and copied to its right-hand side,
so which template is on the left decides which names may be bound and which
may be used.  If both templates have the same names then it makes no
difference: each side has the last expression that the bindings give to each
of its names, and the transform from the second template to the first is the
reverse of the one from the first to the second.

The main statement is `Transform.ofTemplates_swap`.
-/

namespace Binding

variable {Value Other : Type}

theorem sameNames_comm (left : List (Binding Value)) (right : List (Binding Other)) :
    sameNames left right = sameNames right left := by
  rw [Bool.eq_iff_iff, sameNames_iff_count, sameNames_iff_count]
  exact forall_congr' fun name => eq_comm

end Binding

namespace Transform

variable {left right : String} {leftTemplate rightTemplate : Template}
  {bindings : List (Binding (Option String))} {verbose : Bool} {transform : Transform Pattern}

/-- The transform between two templates, either of which gives its names the
last expressions that they are bound to. -/
def between (left right : String × Template) (bindings : List (Binding (Option String)))
    (verbose : Bool) : Transform Pattern where
  left := .ofTemplate left.1 left.2 (Rules.lastBound bindings)
  right := .ofTemplate right.1 right.2 (Rules.lastBound bindings)
  verbose := verbose
  checked := false

theorem reverse_between (left right : String × Template) :
    (between left right bindings verbose).reverse = between right left bindings verbose :=
  rfl

/-- What is derived on the right has the expressions that the bindings gave to
the left. -/
theorem derive_ofTemplate_eq_ok_iff {derived : Pattern}
    (rightRead : Template.parse right = .ok rightTemplate) :
    (Pattern.ofTemplate left leftTemplate (Rules.lastBound bindings)).derive right = .ok derived ↔
      (forall name, name ∈ rightTemplate.names -> name ∈ leftTemplate.names) ∧
        derived = .ofTemplate right rightTemplate (Rules.lastBound bindings) := by
  rw [Pattern.derive_eq_ok_iff, rightRead]
  simp only [Except.ok.injEq, exists_eq_left', Pattern.mem_names_ofTemplate_iff]
  apply and_congr_right
  intro known
  have inherited : Rules.ofNames rightTemplate.names
      (Pattern.ofTemplate left leftTemplate (Rules.lastBound bindings)).rules.expression? =
        Rules.ofNames rightTemplate.names (Rules.lastBound bindings) :=
    Rules.ofNames_congr fun name member => Rules.expression?_ofNames (known name member)
  rw [Pattern.ofTemplate, inherited, Pattern.ofTemplate]

/-- A transform is made between two templates if what is bound, and what
stands in the second one, are names of the first. -/
theorem ofTemplates_eq_ok_iff (leftRead : Template.parse left = .ok leftTemplate)
    (rightRead : Template.parse right = .ok rightTemplate) :
    ofTemplates false left right bindings verbose = .ok transform ↔
      (forall name, name ∈ Binding.names bindings -> name ∈ leftTemplate.names) ∧
        (forall name, name ∈ rightTemplate.names -> name ∈ leftTemplate.names) ∧
          transform = between (left, leftTemplate) (right, rightTemplate) bindings verbose := by
  constructor
  · intro made
    rcases Workspace.patterns_of_ofTemplates made with ⟨parsed, derives⟩
    have plain := ofTemplates_of_derive_eq_ok parsed derives false verbose
    rcases Pattern.parse_eq_ok_iff.mp parsed with ⟨template, read, bound, isLeft⟩
    cases read.symm.trans leftRead
    rw [isLeft, derive_ofTemplate_eq_ok_iff rightRead] at derives
    rcases derives with ⟨known, isRight⟩
    rw [made, isLeft, isRight] at plain
    exact ⟨bound, known, Except.ok.inj plain⟩
  · rintro ⟨bound, known, rfl⟩
    have parsed : Pattern.parse left bindings =
        .ok (.ofTemplate left leftTemplate (Rules.lastBound bindings)) :=
      Pattern.parse_eq_ok_iff.mpr ⟨leftTemplate, leftRead, bound, rfl⟩
    have derives : (Pattern.ofTemplate left leftTemplate (Rules.lastBound bindings)).derive right =
        .ok (.ofTemplate right rightTemplate (Rules.lastBound bindings)) :=
      (derive_ofTemplate_eq_ok_iff rightRead).mpr ⟨known, rfl⟩
    exact ofTemplates_of_derive_eq_ok parsed derives false verbose

/-- Comparing the placeholders of both sides comes out the same for the
reverse. -/
theorem check_reverse (transform : Transform Pattern) :
    transform.reverse.check = transform.check.map reverse := by
  rw [check, check, reverse, Binding.sameNames_comm]
  by_cases same : Binding.sameNames transform.left.bindings transform.right.bindings = true
  · rw [if_pos same, if_pos same]
    rfl
  · rw [if_neg same, if_neg same]
    rfl

theorem ofTemplates_of_eq_ok (made : ofTemplates false left right bindings verbose = .ok transform)
    (checked : Bool) :
    ofTemplates checked left right bindings verbose =
      if checked then transform.check else .ok transform := by
  rcases Workspace.patterns_of_ofTemplates made with ⟨parsed, derives⟩
  have plain := ofTemplates_of_derive_eq_ok parsed derives false verbose
  have shape : transform = ⟨transform.left, transform.right, verbose, false⟩ :=
    Except.ok.inj (made.symm.trans plain)
  rw [ofTemplates_of_derive_eq_ok parsed derives checked verbose, ← shape]

/-- Between templates with the same names, the transform from the second to
the first is the reverse of the one from the first to the second, checked or
not; and the check refuses both or neither. -/
theorem ofTemplates_swap (leftRead : Template.parse left = .ok leftTemplate)
    (rightRead : Template.parse right = .ok rightTemplate)
    (same : forall name, name ∈ leftTemplate.names ↔ name ∈ rightTemplate.names)
    (made : ofTemplates false left right bindings verbose = .ok transform) (checked : Bool) :
    ofTemplates checked right left bindings verbose =
      (ofTemplates checked left right bindings verbose).map reverse := by
  rcases (ofTemplates_eq_ok_iff leftRead rightRead).mp made with ⟨bound, _, rfl⟩
  have swapped : ofTemplates false right left bindings verbose =
      .ok (between (left, leftTemplate) (right, rightTemplate) bindings verbose).reverse := by
    apply (ofTemplates_eq_ok_iff rightRead leftRead).mpr
    exact ⟨fun name among => (same name).mp (bound name among), fun name => (same name).mp,
      reverse_between _ _⟩
  rw [ofTemplates_of_eq_ok made, ofTemplates_of_eq_ok swapped, check_reverse]
  cases checked <;> rfl

end Transform
end Stencil

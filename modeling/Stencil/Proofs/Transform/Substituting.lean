import Stencil.Proofs.Pattern.Filling
import Stencil.Proofs.Pattern.Making
import Stencil.Proofs.Transform.Replacing

namespace Stencil
namespace Transform

/-!
Substitution in a transform.  Every match binds exactly the names of the
left-hand template, also those that stand for nothing, so whether what it
binds can be filled into the right-hand template is a question about the two
templates.  If the right-hand one has a name that the left-hand one lacks, no
match can be rewritten, and all of them fail for the first such name; if it
has none, every match can be rewritten.
-/

variable {transform : Transform Pattern} {name : String}

/-- The first placeholder of the right-hand side that the left-hand side does
not have. -/
def missing? (transform : Transform Pattern) : Option String :=
  Binding.firstUnknown? transform.left.template.names transform.right.template.names

theorem missing?_eq_none_iff : transform.missing? = none ↔
    forall name, name ∈ transform.right.template.names -> name ∈ transform.left.template.names :=
  Binding.firstUnknown?_eq_none_iff

/-- Which name is missing depends on the templates only, not on what is
bound. -/
theorem missing?_congr {first second : Transform Pattern}
    (left : first.left.template = second.left.template)
    (right : first.right.template = second.right.template) : first.missing? = second.missing? := by
  rw [missing?, missing?, left, right]

/-! ## Rewriting what binds the names of the left-hand side -/

section

variable {bindings : List (Binding String)} {visit : Matcher.Visit}

theorem apply_right_of_missing (missing : transform.missing? = some name)
    (named : Binding.names bindings = transform.left.template.names) :
    transform.right.apply bindings = .error (.missingBinding name) := by
  apply Pattern.apply_eq_error_iff.mpr
  rw [named]
  exact ⟨name, missing, rfl⟩

theorem exists_apply_right (complete : transform.missing? = none)
    (named : Binding.names bindings = transform.left.template.names) :
    ∃ written, transform.right.apply bindings = .ok written := by
  cases outcome : transform.right.apply bindings with
  | ok written => exact ⟨written, rfl⟩
  | error failure =>
      rcases Pattern.apply_eq_error_iff.mp outcome with ⟨name, missing, _⟩
      rw [named] at missing
      cases complete.symm.trans missing

theorem rewrite_of_missing (missing : transform.missing? = some name)
    (named : Binding.names visit.bindings = transform.left.template.names) :
    transform.rewrite visit = .error (.missingBinding name) := by
  rw [rewrite, apply_right_of_missing missing named]
  rfl

theorem exists_rewrite (complete : transform.missing? = none)
    (named : Binding.names visit.bindings = transform.left.template.names) :
    ∃ rewrite, transform.rewrite visit = .ok rewrite := by
  rcases exists_apply_right complete named with ⟨written, filled⟩
  refine ⟨⟨visit.start, visit.stop, written⟩, ?_⟩
  rw [rewrite, filled]
  rfl

end

/-! ## Matching and searching -/

section

variable {matcher : Matcher} {text : String} {visits : List Matcher.Visit}

/-- Applying a transform fails where nothing matches; otherwise the right-hand
side is filled with bindings of the names on the left. -/
theorem apply_eq_or (coherent : transform.left.IsCoherent)
    (compiles : transform.left.compile = .ok matcher) (text : String) :
    (transform.left.matchWhole text = .error .noMatch ∧ transform.apply text = .error .noMatch) ∨
    ∃ bindings, transform.left.matchWhole text = .ok bindings ∧
      Binding.names bindings = transform.left.template.names ∧
        transform.apply text = transform.right.apply bindings := by
  rcases Pattern.restores_of_matchWhole coherent compiles text with
    noMatch | ⟨bindings, matched, restores⟩
  · refine .inl ⟨noMatch, ?_⟩
    rw [apply, noMatch]
    rfl
  · refine .inr ⟨bindings, matched, restores.1, ?_⟩
    rw [apply, matched]
    rfl

theorem exists_findAll (coherent : transform.left.IsCoherent)
    (compiles : transform.left.compile = .ok matcher) (text : String) :
    ∃ visits, transform.left.findAll text = .ok visits ∧ forall visit, visit ∈ visits ->
      Binding.names visit.bindings = transform.left.template.names := by
  rcases Pattern.restores_of_findAll coherent compiles text with ⟨visits, found, each⟩
  exact ⟨visits, found, fun visit member => (each visit member).2.2.1⟩

theorem replace_of_findAll_nil (found : transform.left.findAll text = .ok []) :
    transform.replace text = .ok text := by
  have whole : splice text.toList.toArray 0 [] = text.toList := by
    rw [splice, Array.extract_size]
  rw [replace, found]
  change Except.ok (String.ofList (splice text.toList.toArray 0 [])) = _
  rw [whole, String.ofList_toList]

/-- If the first match cannot be rewritten then replacing fails as its
rewriting does. -/
theorem replace_of_findAll_cons {first : Matcher.Visit} {others : List Matcher.Visit}
    {failure : Failure} (found : transform.left.findAll text = .ok (first :: others))
    (fails : transform.rewrite first = .error failure) : transform.replace text = .error failure := by
  rw [replace, found]
  change (first :: others).mapM transform.rewrite >>= _ = _
  rw [List.mapM_cons, fails]
  rfl

theorem exists_mapM_rewrite (complete : transform.missing? = none)
    (named : forall visit, visit ∈ visits ->
      Binding.names visit.bindings = transform.left.template.names) :
    ∃ rewrites, visits.mapM transform.rewrite = .ok rewrites := by
  rcases Pattern.mapM_eq_ok fun visit member => exists_rewrite complete (named visit member) with
    ⟨rewrites, made, _⟩
  exact ⟨rewrites, made⟩

end

/-! ## What is left alone by compiling -/

/-- What a transform does depends on the compiled left-hand side and the
right-hand template. -/
theorem apply_congr {first second : Transform Pattern}
    (compile : first.left.compile = second.left.compile)
    (template : first.right.template = second.right.template) : first.apply = second.apply := by
  funext text
  rw [apply, apply, Pattern.matchWhole, Pattern.matchWhole, compile,
    Pattern.apply_eq_of_template template]

theorem replace_congr {first second : Transform Pattern}
    (compile : first.left.compile = second.left.compile)
    (rewrite : first.rewrite = second.rewrite) : first.replace = second.replace := by
  funext text
  rw [replace, replace, Pattern.findAll, Pattern.findAll, compile, rewrite]

end Transform

namespace Pattern

/-- A pattern that is derived has no names but those it is derived from; any
other would have been refused. -/
theorem mem_names_of_derive {pattern derived : Pattern} {text name : String}
    (consistent : pattern.IsConsistent) (done : pattern.derive text = .ok derived)
    (member : name ∈ derived.template.names) : name ∈ pattern.template.names := by
  rcases derive_eq_ok_iff.mp done with ⟨template, _, known, rfl⟩
  have held := known name member
  rw [Pattern.names, consistent.names, Template.distinctNames, List.mem_eraseDups] at held
  exact held

end Pattern
end Stencil

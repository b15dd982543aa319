import Stencil.Proofs.Transform.Reversal

namespace Stencil

/-!
Checked transforms beside plain ones.  A transform between templates is made
the same way whether it is checked or not, so one that is checked is refused
wherever the plain one is, and for the same reason, save that a placeholder of
the right-hand template which the left-hand one does not know is told as one
that keeps the transform from being reversed.  Where the plain one is made the
comparison of the placeholders decides, and what is made does the same.

Several things may be wrong at once.  The left-hand template is read first,
then the bindings are looked up in it, then the right-hand template is read
and its names are looked up; what is wrong first is told.

The main statement is `Transform.ofTemplates_checks`.
-/

/-- How making a checked transform ends, by how making the plain one does.
There is one constructor for each ending of the plain one, and two where it
succeeds. -/
inductive Checks (bindings : List (Binding (Option String))) (right : String) :
    (plain checked : Outcome (Transform Pattern)) -> Prop where
  /-- One of the templates cannot be read. -/
  | malformed (error : Template.SyntaxError) (named : Option String) :
      Checks bindings right (.error (.template error named)) (.error (.template error named))
  /-- A placeholder that is bound is not in the left-hand template. -/
  | unknownBound {name : String} (bound : name ∈ Binding.names bindings) :
      Checks bindings right (.error (.unknownPlaceholder name)) (.error (.unknownPlaceholder name))
  /-- A placeholder of the right-hand template is not in the left-hand one. -/
  | unknownUsed {name : String} {template : Template} (unbound : name ∉ Binding.names bindings)
      (parsed : Template.parse right = .ok template) (used : name ∈ template.names) :
      Checks bindings right (.error (.unknownPlaceholder name)) (.error (.notReversible (some name)))
  | balanced {transform : Transform Pattern}
      (same : Binding.sameNames transform.left.bindings transform.right.bindings = true) :
      Checks bindings right (.ok transform) (.ok { transform with checked := true })
  | unbalanced {transform : Transform Pattern}
      (different : Binding.sameNames transform.left.bindings transform.right.bindings = false) :
      Checks bindings right (.ok transform) (.error (.notReversible none))

namespace Pattern

variable {pattern : Pattern} {text : String} {bindings : List (Binding (Option String))}
  {failure : Failure}

/-- Reading a template can only go wrong by its syntax, and then the template
is not named. -/
theorem templateOf_eq_error (failed : templateOf text = .error failure) :
    ∃ error, failure = .template error none := by
  rcases Except.mapError_eq_error_iff.mp failed with ⟨fault, _, rfl⟩
  exact ⟨fault, rfl⟩

theorem rebindAll_eq_error (failed : pattern.rebindAll bindings = .error failure) :
    ∃ name, name ∈ Binding.names bindings ∧ failure = .unknownPlaceholder name := by
  unfold rebindAll at failed
  induction bindings generalizing pattern with
  | nil => cases failed
  | cons binding rest inductiveHypothesis =>
      rw [List.foldlM_cons] at failed
      rcases Except.bind_eq_error_iff.mp failed with first | ⟨middle, _, later⟩
      · exact ⟨binding.name, List.mem_cons_self, (rebind_eq_error_iff.mp first).2⟩
      · rcases inductiveHypothesis later with ⟨name, among, same⟩
        exact ⟨name, List.mem_cons_of_mem _ among, same⟩

/-- What has been bound is known, so an unknown name on the right has not been
bound. -/
theorem has_of_parse {pattern : Pattern} (done : parse text bindings = .ok pattern) {name : String}
    (bound : name ∈ Binding.names bindings) : pattern.rules.has name = true := by
  rcases parse_eq_ok_iff.mp done with ⟨template, _, known, rfl⟩
  exact Rules.has_iff.mpr (mem_names_ofTemplate_iff.mpr (known name bound))

/-- A template with bindings is refused for its syntax or for a binding of a
name that it has not. -/
theorem parse_eq_error (failed : parse text bindings = .error failure) :
    (∃ error, failure = .template error none) ∨
      ∃ name, name ∈ Binding.names bindings ∧ failure = .unknownPlaceholder name := by
  rcases Except.bind_eq_error_iff.mp failed with unread | ⟨template, _, unbound⟩
  · exact .inl (templateOf_eq_error unread)
  · exact .inr (rebindAll_eq_error unbound)

/-- A template for the expressions of a pattern is refused for its syntax or
for a name that the pattern has not. -/
theorem derive_eq_error (failed : pattern.derive text = .error failure) :
    (∃ error, failure = .template error none) ∨
      ∃ template name, Template.parse text = .ok template ∧ name ∈ template.names ∧
        pattern.rules.has name = false ∧ failure = .unknownPlaceholder name := by
  rcases derive_eq_error_iff.mp failed with
    ⟨error, _, same⟩ | ⟨template, front, name, back, read, written, _, missing, same⟩
  · exact .inl ⟨error, same⟩
  · refine .inr ⟨template, name, read, ?_, ?_, same⟩
    · rw [written]
      exact List.mem_append_right _ List.mem_cons_self
    · rw [← Bool.not_eq_true, Rules.has_iff]
      exact missing

end Pattern

namespace Transform

variable {left right : String} {bindings : List (Binding (Option String))} {pattern : Pattern}
  {failure : Failure}

theorem ofTemplates_of_parse_eq_error (failed : Pattern.parse left bindings = .error failure)
    (checked verbose : Bool) :
    ofTemplates checked left right bindings verbose = .error (nameTemplate left failure) := by
  unfold ofTemplates
  rw [failed]
  rfl

theorem ofTemplates_of_derive_eq_error (parsed : Pattern.parse left bindings = .ok pattern)
    (failed : pattern.derive right = .error failure) (checked verbose : Bool) :
    ofTemplates checked left right bindings verbose =
      .error (refuseUnknown checked (nameTemplate right failure)) := by
  unfold ofTemplates
  rw [parsed]
  dsimp only [Except.mapError_ok, bind, Except.bind]
  rw [failed]
  rfl

theorem ofTemplates_of_derive_eq_ok {derived : Pattern}
    (parsed : Pattern.parse left bindings = .ok pattern) (derives : pattern.derive right = .ok derived)
    (checked verbose : Bool) :
    ofTemplates checked left right bindings verbose =
      if checked then check ⟨pattern, derived, verbose, false⟩
      else .ok ⟨pattern, derived, verbose, false⟩ := by
  unfold ofTemplates
  rw [parsed]
  dsimp only [Except.mapError_ok, bind, Except.bind]
  rw [derives]
  rfl

/-- Making a checked transform ends as making the plain one does, but for what
the check is about. -/
theorem ofTemplates_checks (left right : String) (bindings : List (Binding (Option String)))
    (verbose : Bool) :
    Checks bindings right (ofTemplates false left right bindings verbose)
      (ofTemplates true left right bindings verbose) := by
  cases parsed : Pattern.parse left bindings with
  | error failure =>
      rw [ofTemplates_of_parse_eq_error parsed, ofTemplates_of_parse_eq_error parsed]
      rcases Pattern.parse_eq_error parsed with ⟨fault, rfl⟩ | ⟨name, bound, rfl⟩
      · exact .malformed fault (some left)
      · exact .unknownBound bound
  | ok pattern =>
      cases derives : pattern.derive right with
      | error failure =>
          rw [ofTemplates_of_derive_eq_error parsed derives,
            ofTemplates_of_derive_eq_error parsed derives]
          rcases Pattern.derive_eq_error derives with
            ⟨error, rfl⟩ | ⟨template, name, reads, used, unknown, rfl⟩
          · exact .malformed error (some right)
          · have unbound : name ∉ Binding.names bindings := by
              intro bound
              rw [Pattern.has_of_parse parsed bound] at unknown
              cases unknown
            exact .unknownUsed unbound reads used
      | ok derived =>
          rw [ofTemplates_of_derive_eq_ok parsed derives, ofTemplates_of_derive_eq_ok parsed derives]
          rw [if_pos rfl, if_neg Bool.false_ne_true, check]
          split
          · rename_i same
            exact .balanced same
          · rename_i different
            exact .unbalanced (Bool.eq_false_iff.mpr different)

/-- What the check lets through is the plain transform, marked as checked and
otherwise the same. -/
theorem ofTemplates_eq_of_checked {verbose : Bool} {transform : Transform Pattern}
    (made : ofTemplates true left right bindings verbose = .ok transform) :
    ∃ plain, ofTemplates false left right bindings verbose = .ok plain ∧
      transform = { plain with checked := true } := by
  have checks := ofTemplates_checks left right bindings verbose
  rw [made] at checks
  generalize outcome : ofTemplates false left right bindings verbose = plain at checks
  cases checks with
  | balanced same => exact ⟨_, rfl, rfl⟩

end Transform
end Stencil

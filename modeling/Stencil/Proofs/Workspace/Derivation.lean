import Stencil.Proofs.Workspace.Representation

namespace Stencil

/-!
Deriving beside parsing.  A derived pattern inherits the expressions of its
names, so it is the pattern that parsing its template gives when every
occurrence of a placeholder is bound to what the source has for it.  What goes
wrong first is told: that the text is no template, or else the first of its
names that the source has not.

Nothing of the source is kept but these expressions.  So it makes no
difference whether a pattern is derived from the source or from one that was
derived before, and what a pattern derives for its own text is the pattern
itself.

The main statement is `derives_as_parsing`.
-/

/-- How deriving a pattern for a text ends: the text is no template, a name in
it is unknown, or a pattern is made. -/
inductive Pattern.Derives (source : Pattern) (text : String) : Outcome Pattern -> Prop where
  | malformed {error : Template.SyntaxError} (unread : Template.parse text = .error error) :
      Derives source text (.error (.template error none))
  /-- The name is the first one that the source has not. -/
  | unknown {template : Template} {front back : List String} {name : String}
      (read : Template.parse text = .ok template) (names : template.names = front ++ name :: back)
      (known : forall other, other ∈ front -> other ∈ source.names)
      (missing : name ∉ source.names) :
      Derives source text (.error (.unknownPlaceholder name))
  /-- It is what parsing gives, with the present expressions for all occurrences. -/
  | inherited {template : Template} {derived : Pattern}
      (read : Template.parse text = .ok template)
      (known : forall name, name ∈ template.names -> name ∈ source.names)
      (parses : Pattern.parse text
        (template.names.map fun name => ⟨name, source.rules.expression? name⟩) = .ok derived)
      (isNew : derived.isCompiled = false) :
      Derives source text (.ok derived)

theorem Pattern.derives (source : Pattern) (text : String) :
    source.Derives text (source.derive text) := by
  cases outcome : source.derive text with
  | error failure =>
      rcases derive_eq_error_iff.mp outcome with
        ⟨error, unread, rfl⟩ | ⟨template, front, name, back, read, names, known, missing, rfl⟩
      · exact .malformed unread
      · exact .unknown read names known missing
  | ok derived =>
      rcases derive_eq_ok_iff.mp outcome with ⟨template, read, known, made⟩
      have isNew : derived.isCompiled = false := by
        rw [made]
        rfl
      exact .inherited read known (parse_of_derive read outcome) isNew

namespace Workspace

variable {workspace : Workspace} {events : List Event}

/-- A pattern that can be derived is put at a place of its own; otherwise the
workspace is left as it is. -/
theorem run_derive (place : Place) (text : String) (workspace : Workspace) :
    (derive place text).run.run workspace =
      match (workspace.pattern place).derive text with
      | .ok derived => (.ok workspace.patterns.size, workspace.addPattern derived)
      | .error failure => (.error failure, workspace) := by
  apply (run_attempt ((workspace.pattern place).derive text) add workspace).trans
  cases (workspace.pattern place).derive text <;> rfl

/-- However a workspace has been reached, deriving from one of its patterns
refuses a text that is no template, and a template by the first of its names
that the pattern has not; otherwise it gives what parsing the template gives
when each occurrence of a placeholder is bound to the expression that the
pattern has for it now.  The new pattern gets the next place, and nothing else
is changed.  What is derived from a derived pattern is derived from the first
one, too, and for its own text a pattern derives itself, but for the
matcher. -/
theorem derives_as_parsing (runs : Runs .empty events workspace) (place : Place) :
    (forall text,
      (workspace.pattern place).Derives text ((workspace.pattern place).derive text) ∧
      (derive place text).run.run workspace =
        match (workspace.pattern place).derive text with
        | .ok derived => (.ok workspace.patterns.size, workspace.addPattern derived)
        | .error failure => (.error failure, workspace)) ∧
    (forall (first second : String) (middle last : Pattern),
      (workspace.pattern place).derive first = .ok middle -> middle.derive second = .ok last ->
        (workspace.pattern place).derive second = .ok last) ∧
    (workspace.pattern place).derive (workspace.pattern place).text =
      .ok (workspace.pattern place).fresh := by
  have faithful := runs.isFaithful_entry place
  refine ⟨fun text => ⟨Pattern.derives _ text, run_derive place text workspace⟩, ?_, ?_⟩
  · exact fun first second middle last => Pattern.derive_derive
  · exact Pattern.derive_text faithful.read faithful.keys

def compiledExample : Workspace :=
  after (compile 0) (after (parse "${x}-${y}" [⟨"x", some "a"⟩, ⟨"y", some "b*"⟩]) .empty)

theorem derives_as_parsing_compiledExample :
    ∃ events middle last, Runs .empty events compiledExample ∧
      (compiledExample.pattern 0).derive "${y}${x}${y}" = .ok middle ∧
      middle.derive "<${y}>" = .ok last ∧
      (compiledExample.pattern 0).derive "<${y}>" = .ok last ∧
      (compiledExample.pattern 0).Derives "${y}${w}${v}" (.error (.unknownPlaceholder "w")) ∧
      (compiledExample.pattern 0).isCompiled = true ∧
      (compiledExample.pattern 0).derive (compiledExample.pattern 0).text =
        .ok (compiledExample.pattern 0).fresh := by
  have reached : ∃ events, Runs .empty events compiledExample :=
    ⟨_, (Runs.parse .empty "${x}-${y}" [⟨"x", some "a"⟩, ⟨"y", some "b*"⟩]).trans (.compile _ 0)⟩
  have derivable : ((compiledExample.pattern 0).derive "${y}${x}${y}" >>= fun middle =>
      middle.derive "<${y}>").toOption.isSome = true := by
    decide +kernel
  have unknown : (compiledExample.pattern 0).derive "${y}${w}${v}" =
      .error (.unknownPlaceholder "w") := by
    decide +kernel
  rcases Except.exists_ok_of_isSome derivable with ⟨last, derives⟩
  rcases Except.bind_eq_ok_iff.mp derives with ⟨middle, first, second⟩
  rcases reached with ⟨events, runs⟩
  rcases derives_as_parsing runs 0 with ⟨ends, twice, itself⟩
  have refused := (ends "${y}${w}${v}").1
  rw [unknown] at refused
  exact ⟨events, middle, last, runs, first, second, twice _ _ middle last first second, refused,
    by decide +kernel, itself⟩

end Workspace
end Stencil

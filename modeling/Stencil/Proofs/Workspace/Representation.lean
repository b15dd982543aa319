import Stencil.Proofs.Pattern.Making
import Stencil.Proofs.Template.Grammar
import Stencil.Proofs.Workspace.Replacing

namespace Stencil

/-!
What a pattern consists of.  A pattern says the same thing three times: in the
text of its template, in the fragments that were read from it, and in the
names of its table of rules.  They are made along different ways, by parsing
and by deriving, and copied and bound afterwards; still each of them can be
told from the fragments, however the pattern has come about.

This is kept by every event (`Event.areFaithful_enter`), and so by every run.
The main statement is `represents_of_runs`.
-/

namespace Template

/-- The fragments with an even index are the literals, and those with an odd
one the placeholders. -/
theorem getElem?_fragments_literal (template : Template) (index : Nat) :
    template.fragments[2 * index]? = template.literals[index]?.map .literal := by
  rcases template with ⟨pieces, last⟩
  induction pieces generalizing index with
  | nil => cases index <;> rfl
  | cons piece rest inductiveHypothesis =>
      rw [fragments_cons]
      cases index with
      | zero => rfl
      | succ before => exact inductiveHypothesis before

theorem getElem?_fragments_placeholder (template : Template) (index : Nat) :
    template.fragments[2 * index + 1]? = template.names[index]?.map .placeholder := by
  rcases template with ⟨pieces, last⟩
  induction pieces generalizing index with
  | nil => cases index <;> rfl
  | cons piece rest inductiveHypothesis =>
      rw [fragments_cons]
      cases index with
      | zero => rfl
      | succ before => exact inductiveHypothesis before

theorem length_fragments (template : Template) :
    template.fragments.length = 2 * template.names.length + 1 := by
  rcases template with ⟨pieces, last⟩
  induction pieces with
  | nil => rfl
  | cons piece rest inductiveHypothesis =>
      rw [fragments_cons, List.length_cons, List.length_cons, inductiveHypothesis]
      rfl

theorem print_of_parse {text : String} {template : Template}
    (read : parse text = .ok template) : print template.fragments = text := by
  have same : printTexts template.texts = print template.fragments :=
    congrArg print (Fragment.alternating_texts template)
  rw [← same, ← String.toList_inj, toList_printTexts]
  exact (characters_of_parse read).2

end Template

namespace Pattern

/-- The text and the names of the rules can be told from the fragments, of
which every second one is a placeholder.  What a pattern keeps besides them is
redundant, but for the expressions. -/
structure IsFaithful (pattern : Pattern) : Prop where
  odd : pattern.fragments.length % 2 = 1
  literals : forall index,
    pattern.fragments[2 * index]? = pattern.template.literals[index]?.map .literal
  placeholders : forall index,
    pattern.fragments[2 * index + 1]? = pattern.template.names[index]?.map .placeholder
  written : Template.print pattern.fragments = pattern.text
  keys : pattern.rules.names = pattern.template.names.eraseDups
  distinct : pattern.rules.names.Nodup

end Pattern

/-- The binding is of the name, and its value is the expression that the table
holds for it, or empty if the table holds the name without one. -/
def Rules.Gives (rules : Rules) (name : String) (binding : Binding String) : Prop :=
  binding.name = name ∧ ∃ expression, rules.entries.lookup name = some expression ∧
    binding.value = expression.getD ""

namespace Workspace

variable {ledger : List Entry} {workspace : Workspace} {events : List Event}

/-- The template is the one in the text, and the rules are for its names in
order of first occurrence. -/
structure Entry.IsFaithful (entry : Entry) : Prop where
  read : Template.parse entry.text = .ok entry.template
  keys : entry.rules.names = entry.template.distinctNames

theorem Entry.isFaithful_ofTemplate {text : String} {template : Template}
    (read : Template.parse text = .ok template) (expression : String -> Option String) :
    (Entry.ofTemplate text template expression).IsFaithful where
  read := read
  keys := Rules.names_ofNames

theorem Entry.isFaithful_blank : Pattern.blank.entry.IsFaithful :=
  Entry.isFaithful_ofTemplate rfl fun _ => none

/-- Binding changes no names, only what they are bound to. -/
theorem Entry.IsFaithful.rebindAll {entry : Entry} (faithful : entry.IsFaithful)
    (bindings : List (Binding (Option String))) : (entry.rebindAll bindings).IsFaithful where
  read := faithful.read
  keys := by
    have kept : (entry.rules.rebindAll bindings).names = entry.rules.names :=
      Rules.names_rebindAll
    exact kept.trans faithful.keys

def AreFaithful (ledger : List Entry) : Prop :=
  forall entry, entry ∈ ledger -> entry.IsFaithful

theorem AreFaithful.entryAt (faithful : AreFaithful ledger) (place : Place) :
    (Event.entryAt ledger place).IsFaithful := by
  rw [Event.entryAt, List.getD_eq_getElem?_getD]
  cases held : ledger[place]? with
  | none => exact Entry.isFaithful_blank
  | some entry => exact faithful entry (List.mem_of_getElem? held)

/-- What is made is faithful, if what it is made from is: it is parsed from
its own text, or has the names of its source. -/
theorem AreFaithful.made {event : Event} {made : Entry} (faithful : AreFaithful ledger)
    (makes : event.made? ledger = some made) : made.IsFaithful := by
  cases event with
  | parsed place text bindings =>
      rcases Option.map_eq_some_iff.mp makes with ⟨template, read, rfl⟩
      exact Entry.isFaithful_ofTemplate (Except.toOption_eq_some_iff.mp read) _
  | derived place source text =>
      rcases Option.map_eq_some_iff.mp makes with ⟨template, read, rfl⟩
      exact Entry.isFaithful_ofTemplate (Except.toOption_eq_some_iff.mp read) _
  | copied place source =>
      cases makes
      exact faithful.entryAt source
  | bound place name expression => cases makes

/-- Every event keeps the entries faithful, whether or not it can happen. -/
theorem Event.areFaithful_enter (faithful : AreFaithful ledger) (event : Event) :
    AreFaithful (event.enter ledger) := by
  have added (makes : event.enter ledger = ledger ++ (event.made? ledger).toList) :
      AreFaithful (event.enter ledger) := by
    rw [makes]
    intro entry member
    rcases List.mem_append.mp member with old | new
    · exact faithful entry old
    · exact faithful.made (Option.mem_toList.mp new)
  cases event with
  | parsed | derived | copied => exact added rfl
  | bound place name expression =>
      intro entry member
      rcases List.mem_iff_getElem?.mp member with ⟨index, held⟩
      rw [Event.enter, List.getElem?_modify] at held
      rcases Option.map_eq_some_iff.mp held with ⟨old, before, rfl⟩
      have oldFaithful := faithful old (List.mem_of_getElem? before)
      by_cases same : place = index
      · rw [if_pos same]
        exact oldFaithful.rebindAll _
      · rw [if_neg same]
        exact oldFaithful

theorem areFaithful_enterAll (faithful : AreFaithful ledger) (events : List Event) :
    AreFaithful (enterAll ledger events) := by
  induction events generalizing ledger with
  | nil => exact faithful
  | cons event rest inductiveHypothesis =>
      exact inductiveHypothesis (Event.areFaithful_enter faithful event)

/-- However a workspace has been reached, its entries are faithful.  This
holds of the blank entry as well. -/
theorem Runs.isFaithful_entry (runs : Runs .empty events workspace) (place : Place) :
    (workspace.pattern place).entry.IsFaithful := by
  have nothing : AreFaithful empty.entries := nofun
  rw [← entryAt_entries, runs.accounts.2]
  exact (areFaithful_enterAll nothing events).entryAt place

end Workspace

namespace Pattern

variable {pattern : Pattern}

theorem isFaithful_of_entry (faithful : pattern.entry.IsFaithful) : pattern.IsFaithful where
  odd := by
    rw [fragments, Template.length_fragments]
    omega
  literals := pattern.template.getElem?_fragments_literal
  placeholders := pattern.template.getElem?_fragments_placeholder
  written := Template.print_of_parse faithful.read
  keys := faithful.keys
  distinct := Rules.nodup_of_keys faithful.keys

theorem IsFaithful.mem_names_iff (faithful : pattern.IsFaithful) {name : String} :
    name ∈ pattern.names ↔ name ∈ pattern.template.names := by
  rw [Pattern.names, faithful.keys, List.mem_eraseDups]

/-- Every occurrence of a placeholder has a binding, since the rules hold its
name. -/
theorem IsFaithful.bindings (faithful : pattern.IsFaithful) :
    List.Forall₂ pattern.rules.Gives pattern.template.names pattern.bindings := by
  rw [Pattern.bindings, List.forall₂_map_right_iff, List.forall₂_same]
  intro name member
  refine ⟨rfl, ?_⟩
  have held := faithful.mem_names_iff.mpr member
  rcases List.mem_map.mp held with ⟨⟨key, expression⟩, entered, rfl⟩
  have found := lookup_of_mem faithful.distinct entered
  refine ⟨expression, found, ?_⟩
  rw [Rules.expression?, found, Option.join_some]

end Pattern

namespace Workspace

variable {workspace : Workspace} {events : List Event}

/-- In a workspace, too, a placeholder cannot be bound exactly if the template
has none of its name. -/
theorem rebind_eq_error_iff {place : Place} {name : String} {expression : Option String}
    {failure : Failure} (faithful : (workspace.pattern place).IsFaithful) :
    ((rebind place name expression).run.run workspace).1 = .error failure ↔
      name ∉ (workspace.pattern place).template.names ∧ failure = .unknownPlaceholder name := by
  rw [← faithful.mem_names_iff, ← Pattern.rebind_eq_error_iff, run_rebind]
  cases (workspace.pattern place).rebind name expression with
  | ok rebound => exact ⟨nofun, nofun⟩
  | error other =>
      dsimp only
      rw [Except.error.injEq, Except.error.injEq]

/-- However a workspace has been reached, by parsing, deriving, copying,
binding and whatever else can be run, each of its patterns can be told from
its fragments, of which every second one is a placeholder: its text is what
they are written as, and its rules are for the distinct names among them, in
the order in which these occur first.  So these are its names, its bindings
can be listed, one for each occurrence of a placeholder, and a placeholder
cannot be bound exactly if its name does not occur. -/
theorem represents_of_runs (runs : Runs .empty events workspace) (place : Place) :
    (workspace.pattern place).IsFaithful ∧
    (workspace.pattern place).names = (workspace.pattern place).template.names.eraseDups ∧
    List.Forall₂ (workspace.pattern place).rules.Gives (workspace.pattern place).template.names
      (workspace.pattern place).bindings ∧
    forall name expression failure,
      ((rebind place name expression).run.run workspace).1 = .error failure ↔
        name ∉ (workspace.pattern place).template.names ∧ failure = .unknownPlaceholder name := by
  have faithful := Pattern.isFaithful_of_entry (runs.isFaithful_entry place)
  exact ⟨faithful, faithful.keys, faithful.bindings,
    fun name expression failure => rebind_eq_error_iff faithful⟩

/-- A pattern, one that was derived from it, and a copy of that one, in which
a placeholder was bound. -/
def copiedExample : Workspace :=
  after (rebind 2 "x" (some "b")) <| after (copy 1) <| after (derive 0 "${y}$$${x}${y}") <|
    after (parse "${x}-${y}" [⟨"x", some "a"⟩]) .empty

theorem represents_of_runs_copiedExample :
    ∃ events, Runs .empty events copiedExample ∧ (copiedExample.pattern 2).IsFaithful ∧
      (copiedExample.pattern 2).names = ["y", "x"] ∧
      (copiedExample.pattern 2).bindings = [⟨"y", ""⟩, ⟨"x", "b"⟩, ⟨"y", ""⟩] ∧
      ((rebind 2 "z" none).run.run copiedExample).1 = .error (.unknownPlaceholder "z") := by
  have runs := (((Runs.parse .empty "${x}-${y}" [⟨"x", some "a"⟩]).trans
    (.derive _ 0 "${y}$$${x}${y}")).trans (.copy _ 1)).trans (.rebind _ 2 "x" (some "b"))
  rcases represents_of_runs runs 2 with ⟨faithful, _, _, unknown⟩
  have absent : "z" ∉ (copiedExample.pattern 2).template.names := by
    decide +kernel
  exact ⟨_, runs, faithful, by decide +kernel, by decide +kernel,
    (unknown "z" none (.unknownPlaceholder "z")).mpr ⟨absent, rfl⟩⟩

end Workspace
end Stencil

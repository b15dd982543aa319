import Stencil.Proofs.Pattern.Coherence
import Stencil.Workspace

namespace Stencil

/-!
Ledgers.  A ledger holds what the patterns of a workspace are apart from their
matchers: their texts, their templates and their rules, in the order of their
places.  Two kinds of events change a ledger.  A pattern is made, and its
rules are those it begins with; or a placeholder of a pattern is bound.

The rules of every pattern are those it began with, changed by the events that
bound its own placeholders since: `getElem?_enterAll` says so of the patterns
that were there before the events, and `getElem?_enterAll_made` of one that
was made in between.
-/

namespace Rules

variable (names : List String) (expression : String -> Option String)

/-- The expression that the last of the bindings of a name gives it, if
any. -/
def lastBound (bindings : List (Binding (Option String))) (name : String) : Option String :=
  (Binding.valuesOf bindings name).getLast?.getD none

/-- The table once all bindings have been made, in order. -/
def rebindAll (rules : Rules) (bindings : List (Binding (Option String))) : Rules :=
  bindings.foldl (fun rules binding => rules.rebind binding.name binding.value) rules

theorem rebind_ofNames (name : String) (value : Option String) :
    (ofNames names expression).rebind name value =
      ofNames names fun held => if held = name then value else expression held := by
  simp [ofNames, rebind, Function.comp_def]

theorem rebindAll_ofNames (bindings : List (Binding (Option String))) :
    (ofNames names expression).rebindAll bindings =
      ofNames names fun name =>
        (Binding.valuesOf bindings name).getLast?.getD (expression name) := by
  induction bindings generalizing expression with
  | nil => rfl
  | cons binding rest inductiveHypothesis =>
      have begun : (ofNames names expression).rebindAll (binding :: rest) =
          ((ofNames names expression).rebind binding.name binding.value).rebindAll rest := rfl
      rw [begun, rebind_ofNames, inductiveHypothesis]
      congr 1
      funext name
      by_cases same : binding.name = name
      · simp [Binding.valuesOf, List.getLast?_cons, same]
      · simp [Binding.valuesOf, same, Ne.symm same]

end Rules

namespace Workspace

/-- What a pattern is apart from its matcher.  The matcher can be told from
it, so nothing is lost. -/
structure Entry where
  text : String
  template : Template
  rules : Rules
  deriving DecidableEq, Repr

end Workspace

def Pattern.entry (pattern : Pattern) : Workspace.Entry :=
  ⟨pattern.text, pattern.template, pattern.rules⟩

namespace Workspace

def Entry.rebindAll (entry : Entry) (bindings : List (Binding (Option String))) : Entry :=
  { entry with rules := entry.rules.rebindAll bindings }

def Entry.ofTemplate (text : String) (template : Template) (expression : String -> Option String) :
    Entry :=
  ⟨text, template, .ofNames template.names expression⟩

def entries (workspace : Workspace) : List Entry :=
  workspace.patterns.toList.map Pattern.entry

/-- What can happen to the patterns of a workspace.  Matching, searching and
rewriting are none of these. -/
inductive Event where
  /-- A pattern was parsed, whose placeholders were given bindings. -/
  | parsed (made : Place) (text : String) (bindings : List (Binding (Option String)))
  /-- A pattern for another template was derived from the one at `source`. -/
  | derived (made source : Place) (text : String)
  /-- The pattern at `source` was copied. -/
  | copied (made source : Place)
  /-- A placeholder of the pattern at `place` was bound. -/
  | bound (place : Place) (name : String) (expression : Option String)
  deriving DecidableEq, Repr

namespace Event

def place : Event -> Place
  | parsed made _ _ => made
  | derived made _ _ => made
  | copied made _ => made
  | bound place _ _ => place

/-- The entry at a place; it is blank where there is none, as the pattern
is. -/
def entryAt (ledger : List Entry) (place : Place) : Entry :=
  ledger.getD place Pattern.blank.entry

/-- The pattern as it was made: parsed, every placeholder has the last
expression it was given; derived or copied, it has the expression that it has
in the source. -/
def made? (ledger : List Entry) : Event -> Option Entry
  | parsed _ text bindings =>
      (Template.parse text).toOption.map fun template =>
        .ofTemplate text template (Rules.lastBound bindings)
  | derived _ source text =>
      (Template.parse text).toOption.map fun template =>
        .ofTemplate text template (entryAt ledger source).rules.expression?
  | copied _ source => some (entryAt ledger source)
  | bound _ _ _ => none

def bindingOf? (place : Place) : Event -> Option (Binding (Option String))
  | bound changed name expression => if changed = place then some ⟨name, expression⟩ else none
  | _ => none

/-- The ledger after the event: an entry is changed where it is, or a new one
is put at the end. -/
def enter (ledger : List Entry) : Event -> List Entry
  | bound place name expression =>
      ledger.modify place fun entry => entry.rebindAll [⟨name, expression⟩]
  | event => ledger ++ (event.made? ledger).toList

/-- The event can happen: what is made gets the next place, and what is bound
is a placeholder of a pattern that is there. -/
def Fits (ledger : List Entry) : Event -> Prop
  | bound place name _ => ∃ entry, ledger[place]? = some entry ∧ entry.rules.has name = true
  | event => event.place = ledger.length ∧ (event.made? ledger).isSome

end Event

def enterAll (ledger : List Entry) (events : List Event) : List Entry :=
  events.foldl Event.enter ledger

/-- The bindings of placeholders of the pattern at a place, in the order in
which they were made. -/
def bindingsOf (place : Place) (events : List Event) : List (Binding (Option String)) :=
  events.filterMap (Event.bindingOf? place)

/-- Each of the events could happen when it did, the earlier ones having
happened before. -/
def Possible : (ledger : List Entry) -> List Event -> Prop
  | _, [] => True
  | ledger, event :: rest => event.Fits ledger ∧ Possible (event.enter ledger) rest

variable {ledger : List Entry} {entry : Entry} {place : Place}

theorem Entry.rebindAll_append (entry : Entry) (front back : List (Binding (Option String))) :
    entry.rebindAll (front ++ back) = (entry.rebindAll front).rebindAll back := by
  simp only [rebindAll, Rules.rebindAll, List.foldl_append]

theorem enterAll_append (ledger : List Entry) (front back : List Event) :
    enterAll ledger (front ++ back) = enterAll (enterAll ledger front) back :=
  List.foldl_append

theorem possible_append_iff {front back : List Event} :
    Possible ledger (front ++ back) ↔
      Possible ledger front ∧ Possible (enterAll ledger front) back := by
  induction front generalizing ledger with
  | nil => exact ⟨fun possible => ⟨trivial, possible⟩, And.right⟩
  | cons event rest inductiveHypothesis =>
      rw [List.cons_append, Possible, Possible, inductiveHypothesis, and_assoc]
      rfl

/-- What is made is entered after what is there. -/
theorem enter_of_made? {event : Event} (made : event.made? ledger = some entry) :
    event.enter ledger = ledger ++ [entry] := by
  cases event with
  | bound => cases made
  | parsed | derived | copied => exact congrArg (fun entered => ledger ++ entered.toList) made

/-- An event changes an entry by the binding of its own placeholder, if it is
one. -/
theorem getElem?_enter (held : ledger[place]? = some entry) (event : Event) :
    (event.enter ledger)[place]? = some (entry.rebindAll (event.bindingOf? place).toList) := by
  have inside := (List.getElem?_eq_some_iff.mp held).1
  cases event with
  | bound changed name expression =>
      rw [Event.enter, List.getElem?_modify, held, Event.bindingOf?]
      by_cases same : changed = place
      · simp only [if_pos same]
        rfl
      · simp only [if_neg same]
        rfl
  | parsed | derived | copied =>
      rw [Event.enter, List.getElem?_append_left inside, held]
      · rfl
      · exact nofun

/-- Events change an entry by the bindings of its own placeholders, and by
nothing else. -/
theorem getElem?_enterAll (held : ledger[place]? = some entry) (events : List Event) :
    (enterAll ledger events)[place]? = some (entry.rebindAll (bindingsOf place events)) := by
  induction events generalizing ledger entry with
  | nil => exact held
  | cons event rest inductiveHypothesis =>
      have later := inductiveHypothesis (getElem?_enter held event)
      rw [← Entry.rebindAll_append] at later
      have split : bindingsOf place (event :: rest) =
          (event.bindingOf? place).toList ++ bindingsOf place rest := by
        cases given : event.bindingOf? place <;> simp [bindingsOf, given]
      rw [split]
      exact later

/-- A pattern that is made among other events has the entry it was made with,
changed by the bindings of its placeholders that come later. -/
theorem getElem?_enterAll_made {front back : List Event} {event : Event}
    (possible : Possible ledger (front ++ event :: back))
    (made : event.made? (enterAll ledger front) = some entry) :
    event.place = (enterAll ledger front).length ∧
      (enterAll ledger (front ++ event :: back))[event.place]? =
        some (entry.rebindAll (bindingsOf event.place back)) := by
  obtain ⟨_, fits, _⟩ := possible_append_iff.mp possible
  have begun : event.place = (enterAll ledger front).length ∧
      (event.enter (enterAll ledger front))[event.place]? = some entry := by
    have next : event.place = (enterAll ledger front).length := by
      cases event with
      | bound => cases made
      | parsed | derived | copied => exact fits.1
    refine ⟨next, ?_⟩
    rw [enter_of_made? made, next, List.getElem?_concat_length]
  refine ⟨begun.1, ?_⟩
  rw [enterAll_append]
  exact getElem?_enterAll begun.2 back

end Workspace
end Stencil

import Stencil.Pattern.Basic
import Stencil.Proofs.Template.Fill

namespace Stencil

/-!
The loops that fill a template, told without their dictionaries.  What a
dictionary of cursors or counts knows of a name is how many placeholders of
that name have been passed, and what the dictionary of queues knows of it are
the values bound to it.  So either loop is a filling of the template that
looks back at the names it has passed, with everything written so far in
front.

The main statements are `Pattern.applyWith_eq_fillWith` and
`Pattern.applyFunction_eq_fillWith`.
-/

namespace Binding

variable {Value : Type}

/-- The value for an occurrence of a name, counted from one: its own, or else
the last one of the name. -/
def valueAt? (bindings : List (Binding Value)) (name : String) (occurrence : Nat) : Option Value :=
  let values := valuesOf bindings name
  values[min occurrence values.length - 1]?

theorem getD_get?_foldl (bindings : List (Binding Value)) (begun : Dictionary (List Value))
    (name : String) :
    ((bindings.foldl (fun queues binding =>
      queues.set binding.name ((queues.get? binding.name).getD [] ++ [binding.value]))
        begun).get? name).getD [] =
      (begun.get? name).getD [] ++ valuesOf bindings name := by
  induction bindings generalizing begun with
  | nil => exact (List.append_nil _).symm
  | cons binding rest inductiveHypothesis =>
      rw [List.foldl_cons, inductiveHypothesis, Dictionary.get?_set]
      by_cases same : name = binding.name
      · rw [if_pos same, same, Option.getD_some, List.append_assoc]
        simp [valuesOf]
      · rw [if_neg same]
        simp [valuesOf, Ne.symm same]

theorem getD_get?_queues (bindings : List (Binding Value)) (name : String) :
    ((queues bindings).get? name).getD [] = valuesOf bindings name :=
  getD_get?_foldl bindings .empty name

/-- Where the cursor of a name points is the value for its next occurrence.
Cursors are counted from zero and occurrences from one. -/
theorem valueAt?_of_valuesOf {bindings : List (Binding Value)} {name : String} {first : Value}
    {others : List Value} (values : valuesOf bindings name = first :: others) (cursor : Nat)
    (inside : min cursor others.length < (first :: others).length) :
    valueAt? bindings name (cursor + 1) = some (first :: others)[min cursor others.length] := by
  rw [valueAt?, values, List.length_cons, Nat.add_min_add_right, Nat.add_sub_cancel]
  exact List.getElem?_eq_getElem inside

end Binding

/-- The dictionary holds how often each name has been passed; it need not hold
names that never were. -/
def Dictionary.Counts (dictionary : Dictionary Nat) (passed : List String) : Prop :=
  forall name, (dictionary.get? name).getD 0 = passed.count name

namespace Dictionary.Counts

theorem empty : (Dictionary.empty : Dictionary Nat).Counts [] := fun _ => rfl

theorem set {dictionary : Dictionary Nat} {passed : List String} (counts : dictionary.Counts passed)
    (name : String) :
    (dictionary.set name ((dictionary.get? name).getD 0 + 1)).Counts (name :: passed) := by
  intro other
  rw [Dictionary.get?_set, counts name]
  by_cases same : other = name
  · rw [if_pos same, same, Option.getD_some, List.count_cons_self]
  · rw [if_neg same, counts other, List.count_cons_of_ne (Ne.symm same)]

end Dictionary.Counts

namespace Pattern

variable {passed : List String}

/-- The text of the value that an occurrence of a placeholder takes, or the
failure that its name has none. -/
def valueWith {Value : Type} (read : Value -> Outcome String) (bindings : List (Binding Value))
    (name : String) (occurrence : Nat) : Outcome String :=
  match Binding.valueAt? bindings name occurrence with
  | none => .error (.missingBinding name)
  | some value => read value

theorem substitute_eq_fillPieces {Value : Type} (read : Value -> Outcome String)
    (bindings : List (Binding Value)) {cursors : Dictionary Nat} (counts : cursors.Counts passed)
    (written last : String) (pieces : List (String × String)) :
    substitute read (Binding.queues bindings) cursors written (Template.fragments ⟨pieces, last⟩) =
      (written ++ ·) <$> Template.fillPieces (valueWith read bindings) last passed pieces := by
  induction pieces generalizing cursors passed written with
  | nil => rfl
  | cons piece rest inductiveHypothesis =>
      rcases piece with ⟨literal, name⟩
      have goesOn := counts.set name
      rw [counts name] at goesOn
      rw [Template.fragments_cons, substitute, substitute, Template.fillPieces, map_bind,
        Binding.getD_get?_queues, valueWith]
      split
      · rename_i values
        rw [Binding.valueAt?, values]
        rfl
      · rename_i first others values
        have inside : min (passed.count name) others.length < (first :: others).length :=
          Nat.lt_succ_of_le (Nat.min_le_right _ _)
        rw [Binding.valueAt?_of_valuesOf values _ inside]
        simp only [counts name, inductiveHypothesis goesOn, bind_pure_comp, Functor.map_map,
          String.append_assoc]

/-- A pattern takes the value that is next for the name at every
placeholder. -/
theorem applyWith_eq_fillWith {Value : Type} (pattern : Pattern) (read : Value -> Outcome String)
    (bindings : List (Binding Value)) :
    pattern.applyWith read bindings = pattern.template.fillWith (valueWith read bindings) := by
  have filled := substitute_eq_fillPieces read bindings .empty "" pattern.template.last
    pattern.template.pieces
  simp only [String.empty_append, id_map'] at filled
  exact filled

section

variable {Action : Type -> Type} [Monad Action] [LawfulMonad Action]

theorem synthesise_eq_fillPieces (value : String -> Nat -> Action (Except ValueFault String))
    {counted : Dictionary Nat} (counts : counted.Counts passed) (written last : String)
    (pieces : List (String × String)) :
    synthesise value counted written (Template.fragments ⟨pieces, last⟩) =
      (written ++ ·) <$> Template.fillPieces (filler value) last passed pieces := by
  induction pieces generalizing counted passed written with
  | nil =>
      rw [Template.fillPieces, map_pure]
      rfl
  | cons piece rest inductiveHypothesis =>
      rcases piece with ⟨literal, name⟩
      have goesOn := counts.set name
      rw [counts name] at goesOn
      rw [Template.fragments_cons, synthesise, synthesise, Template.fillPieces, map_bind, counts name]
      simp only [inductiveHypothesis goesOn, bind_pure_comp, Functor.map_map, String.append_assoc]

/-- A pattern has a text made for every placeholder when its turn comes, with
the number that the filling counts. -/
theorem applyFunction_eq_fillWith (pattern : Pattern)
    (value : String -> Nat -> Action (Except ValueFault String)) :
    pattern.applyFunction value = pattern.template.fillWith (filler value) := by
  have filled := synthesise_eq_fillPieces value .empty "" pattern.template.last
    pattern.template.pieces
  simp only [String.empty_append, id_map'] at filled
  exact filled

end

end Pattern
end Stencil

import Stencil.Proofs.Matcher.Decomposition
import Stencil.Proofs.Pattern.Looping

namespace Stencil

/-!
Filling a template with one value for each of its placeholder occurrences.
The values bound to a name are used up in order, so if the bindings name the
placeholders as the template does, each occurrence takes the value bound at
its own place, however names are repeated.
-/

namespace Binding

variable {Value : Type}

theorem length_valuesOf (bindings : List (Binding Value)) (name : String) :
    (valuesOf bindings name).length = (names bindings).count name := by
  rw [valuesOf, names, List.length_map, List.count_eq_countP, List.countP_map,
    List.countP_eq_length_filter]
  rfl

theorem valuesOf_of_not_mem {bindings : List (Binding Value)} {name : String}
    (absent : name ∉ names bindings) : valuesOf bindings name = [] := by
  apply List.eq_nil_of_length_eq_zero
  rw [length_valuesOf]
  exact List.count_eq_zero.mpr absent

theorem valuesOf_append (first second : List (Binding Value)) (name : String) :
    valuesOf (first ++ second) name = valuesOf first name ++ valuesOf second name := by
  simp [valuesOf]

/-- After as many occurrences of a name as are bound before it, a binding of
that name is next. -/
theorem valueAt?_append_cons (before after : List (Binding Value)) (binding : Binding Value) :
    valueAt? (before ++ binding :: after) binding.name ((names before).count binding.name + 1) =
      some binding.value := by
  have here : valuesOf (binding :: after) binding.name =
      binding.value :: valuesOf after binding.name := by
    simp [valuesOf]
  rw [valueAt?, valuesOf_append, here, ← length_valuesOf]
  have position : min ((valuesOf before binding.name).length + 1)
      (valuesOf before binding.name ++ binding.value :: valuesOf after binding.name).length - 1 =
        (valuesOf before binding.name).length := by
    rw [List.length_append, List.length_cons]
    omega
  rw [position, List.getElem?_append_right (Nat.le_refl _), Nat.sub_self]
  rfl

theorem names_zipWith (names : List String) (values : List Value)
    (sameLength : values.length = names.length) :
    Binding.names (List.zipWith Binding.mk names values) = names := by
  induction names generalizing values with
  | nil => rfl
  | cons name rest inductiveHypothesis =>
      cases values with
      | nil => cases sameLength
      | cons value others =>
          exact congrArg (name :: ·) (inductiveHypothesis others (Nat.succ.inj sameLength))

theorem values_zipWith (names : List String) (values : List Value)
    (sameLength : values.length = names.length) :
    (List.zipWith Binding.mk names values).map Binding.value = values := by
  induction names generalizing values with
  | nil =>
      cases values with
      | nil => rfl
      | cons value others => cases sameLength
  | cons name rest inductiveHypothesis =>
      cases values with
      | nil => cases sameLength
      | cons value others =>
          exact congrArg (value :: ·) (inductiveHypothesis others (Nat.succ.inj sameLength))

theorem zipWith_names_values (bindings : List (Binding Value)) :
    List.zipWith Binding.mk (names bindings) (bindings.map Binding.value) = bindings := by
  induction bindings with
  | nil => rfl
  | cons binding rest inductiveHypothesis => exact congrArg (binding :: ·) inductiveHypothesis

end Binding

namespace Template

theorem ofList_written_nil (last : String) :
    String.ofList (Fragment.written (fragments ⟨[], last⟩) []) = last := by
  have written : Fragment.written (fragments ⟨[], last⟩) [] = last.toList :=
    List.append_nil _
  rw [written, String.ofList_toList]

/-- The first literal is followed by the text for the first placeholder and
then by the rest. -/
theorem ofList_written_cons (literal name last text : String) (pieces : List (String × String))
    (texts : List String) :
    String.ofList (Fragment.written (fragments ⟨(literal, name) :: pieces, last⟩)
        ((text :: texts).map String.toList)) =
      literal ++ text ++ String.ofList
        (Fragment.written (fragments ⟨pieces, last⟩) (texts.map String.toList)) := by
  rw [fragments_cons, List.map_cons, Fragment.written, Fragment.written, String.ofList_append,
    String.ofList_append, String.ofList_toList, String.ofList_toList, ← String.append_assoc]

theorem names_fragments (template : Template) :
    Fragment.names template.fragments = template.names := by
  obtain ⟨pieces, last⟩ := template
  induction pieces with
  | nil => rfl
  | cons piece rest inductiveHypothesis =>
      exact congrArg (piece.2 :: ·) inductiveHypothesis

end Template

namespace Pattern

def valueFor (bindings : List (Binding String)) (name : String) (occurrence : Nat) :
    Outcome String :=
  match Binding.valueAt? bindings name occurrence with
  | none => .error (.missingBinding name)
  | some value => .ok value

/-- The pieces left over take the values left over, the placeholders before
them having taken those before. -/
theorem fillPieces_valueFor (last : String) {pieces : List (String × String)}
    {values : List String} (sameLength : values.length = pieces.length)
    (before : List (Binding String)) (passed : List String)
    (counted : forall name, passed.count name = (Binding.names before).count name) :
    Template.fillPieces
        (valueFor (before ++ List.zipWith Binding.mk (pieces.map Prod.snd) values)) last passed
        pieces =
      .ok (String.ofList
        (Fragment.written (Template.fragments ⟨pieces, last⟩) (values.map String.toList))) := by
  induction pieces generalizing values before passed with
  | nil =>
      cases values with
      | nil =>
          rw [List.map_nil, List.map_nil, Template.ofList_written_nil]
          rfl
      | cons value others => cases sameLength
  | cons piece rest inductiveHypothesis =>
      obtain ⟨literal, name⟩ := piece
      cases values with
      | nil => cases sameLength
      | cons value others =>
          have first : valueFor
              (before ++ List.zipWith Binding.mk (((literal, name) :: rest).map Prod.snd)
                (value :: others)) name (passed.count name + 1) = .ok value := by
            unfold valueFor
            rw [counted, List.map_cons, List.zipWith_cons_cons,
              Binding.valueAt?_append_cons before _ ⟨name, value⟩]
          have countedNext : forall other, (name :: passed).count other =
              (Binding.names (before ++ [⟨name, value⟩])).count other := by
            intro other
            simp [Binding.names, List.count_cons, counted]
          have later := inductiveHypothesis (Nat.succ.inj sameLength) _ _ countedNext
          rw [List.append_assoc, List.singleton_append] at later
          refine Except.bind_eq_ok_iff.mpr ⟨value, first, Except.bind_eq_ok_iff.mpr ⟨_, later, ?_⟩⟩
          rw [Template.ofList_written_cons]
          rfl

theorem apply_eq_fillWith (pattern : Pattern) (bindings : List (Binding String)) :
    pattern.apply bindings = pattern.template.fillWith (valueFor bindings) := by
  have same : valueWith .ok bindings = valueFor bindings := by
    funext name occurrence
    unfold valueWith valueFor
    cases Binding.valueAt? bindings name occurrence <;> rfl
  rw [apply, applyWith_eq_fillWith, same]

/-- What a pattern writes depends on nothing but its template: the expressions
are for reading. -/
theorem apply_eq_of_template {first second : Pattern} (same : first.template = second.template) :
    first.apply = second.apply := by
  funext bindings
  rw [apply_eq_fillWith, apply_eq_fillWith, same]

/-- A template takes the values bound to its placeholders in the order of
their occurrences. -/
theorem apply_zipWith (pattern : Pattern) {values : List String}
    (sameLength : values.length = pattern.template.names.length) :
    pattern.apply (List.zipWith Binding.mk pattern.template.names values) =
      .ok (String.ofList (Fragment.written pattern.fragments (values.map String.toList))) := by
  have piecesLength : values.length = pattern.template.pieces.length := by
    rw [sameLength, Template.names, List.length_map]
  rw [apply_eq_fillWith]
  exact fillPieces_valueFor pattern.template.last piecesLength [] [] fun _ => rfl

end Pattern
end Stencil

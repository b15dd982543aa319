import Stencil.Proofs.Pattern.Substitution

namespace Stencil

/-!
What a template is filled with when the bindings follow no order of its own.
The values of each name stand in a queue: the first occurrence of the name
takes the first of them, the next one the second, and when the queue has come
to its last value, that is taken by all the occurrences that are left.  A name
whose queue is empty from the start ends the filling.

The invariant of the filling is that the names passed so far have taken their
values in this way (`Binding.Takes`), and one more occurrence keeps it.
Nothing but the queues of the template's own names enters into the text.

The main statement is `Pattern.apply_takes`.
-/

namespace Binding

variable {Value : Type} {bindings : List (Binding Value)} {names : List String} {values : List Value}
  {name : String} {value : Value}

/-- The names take these values: at its k-th occurrence, a name takes the k-th
of the values bound to it, or the last one if there are fewer.  This is what
applying a pattern should do, told without cursors and queues. -/
structure Takes (bindings : List (Binding Value)) (names : List String) (values : List Value) :
    Prop where
  length : values.length = names.length
  value : forall front name back, names = front ++ name :: back ->
    values[front.length]? = (valuesOf bindings name)[
      min (front.count name + 1) (valuesOf bindings name).length - 1]?

theorem takes_nil : Takes bindings [] [] := by
  refine ⟨rfl, fun front name back written => ?_⟩
  cases (List.append_eq_nil_iff.mp written.symm).2

theorem Takes.snoc (takes : Takes bindings names values)
    (next : valueAt? bindings name (names.count name + 1) = some value) :
    Takes bindings (names ++ [name]) (values ++ [value]) := by
  refine ⟨by rw [List.length_append, List.length_append, takes.length]; rfl, ?_⟩
  intro front other back written
  rcases List.eq_nil_or_concat back with rfl | ⟨others, last, rfl⟩
  · rcases List.append_inj' written rfl with ⟨rfl, same⟩
    cases same
    rw [← takes.length, List.getElem?_concat_length]
    exact next.symm
  · rw [List.concat_eq_append, ← List.cons_append, ← List.append_assoc] at written
    rcases List.append_inj' written rfl with ⟨rfl, _⟩
    have inside : front.length < values.length := by
      rw [takes.length, List.length_append, List.length_cons]
      omega
    rw [List.getElem?_append_left inside]
    exact takes.value front other others rfl

/-- There is one way only in which names can take their values, so these may
be spoken of. -/
theorem Takes.unique {others : List Value} (takes : Takes bindings names values)
    (takesOthers : Takes bindings names others) : values = others := by
  apply List.ext_getElem?
  intro index
  by_cases inside : index < names.length
  · have written : names = names.take index ++ names[index] :: names.drop (index + 1) := by
      rw [List.getElem_cons_drop, List.take_append_drop]
    have position : (names.take index).length = index := List.length_take_of_le (Nat.le_of_lt inside)
    have same := (takes.value _ _ _ written).trans (takesOthers.value _ _ _ written).symm
    rw [position] at same
    exact same
  · rw [List.getElem?_eq_none (by rw [takes.length]; omega),
      List.getElem?_eq_none (by rw [takesOthers.length]; omega)]

/-- Whatever is bound at all has a value for each of its occurrences, since
the last one is never used up. -/
theorem exists_valueAt? (bound : name ∈ Binding.names bindings) (occurrence : Nat) :
    ∃ value, valueAt? bindings name occurrence = some value := by
  have positive := List.count_pos_iff.mpr bound
  rw [← length_valuesOf] at positive
  have inside : min occurrence (valuesOf bindings name).length - 1 <
      (valuesOf bindings name).length := by
    omega
  exact ⟨_, List.getElem?_eq_getElem inside⟩

theorem valueAt?_of_not_mem (absent : name ∉ Binding.names bindings) (occurrence : Nat) :
    valueAt? bindings name occurrence = none := by
  rw [valueAt?, valuesOf_of_not_mem absent]
  rfl

theorem Takes.bound (takes : Takes bindings names values) (member : name ∈ names) :
    name ∈ Binding.names bindings := by
  rcases List.append_of_mem member with ⟨front, back, written⟩
  by_contra absent
  have inside : front.length < values.length := by
    rw [takes.length, written, List.length_append, List.length_cons]
    omega
  have value := takes.value front name back written
  rw [← valueAt?, valueAt?_of_not_mem absent, List.getElem?_eq_getElem inside] at value
  cases value

/-- A list that repeats its last item at the end has the same items as far as
one can count, if the last one is taken for all that are missing. -/
theorem getElem?_append_last {values : List Value} (last : values.getLast? = some value)
    (occurrence : Nat) :
    (values ++ [value])[min occurrence (values ++ [value]).length - 1]? =
      values[min occurrence values.length - 1]? := by
  have positive : 0 < values.length := by
    apply List.length_pos_iff.mpr
    rintro rfl
    cases last
  rw [List.getLast?_eq_getElem?] at last
  rw [List.length_append, List.length_singleton]
  by_cases present : occurrence ≤ values.length
  · rw [Nat.min_eq_left present, Nat.min_eq_left (Nat.le_succ_of_le present),
      List.getElem?_append_left (by omega)]
  · have atEnd : min occurrence (values.length + 1) - 1 = values.length := by omega
    have atLast : min occurrence values.length - 1 = values.length - 1 := by omega
    rw [atEnd, atLast, last, List.getElem?_concat_length]

/-- Another copy of the last value of a name is as good as none, for this name
and for all others. -/
theorem valueAt?_append_last (last : (valuesOf bindings name).getLast? = some value)
    (other : String) (occurrence : Nat) :
    valueAt? (bindings ++ [⟨name, value⟩]) other occurrence = valueAt? bindings other occurrence := by
  rw [valueAt?, valueAt?, valuesOf_append]
  by_cases same : name = other
  · subst same
    have added : valuesOf [⟨name, value⟩] name = [value] := by
      simp [valuesOf]
    rw [added]
    exact getElem?_append_last last occurrence
  · have added : valuesOf [⟨name, value⟩] other = [] := by
      simp [valuesOf, same]
    rw [added, List.append_nil]

def firstUnknown? (known names : List String) : Option String :=
  names.find? fun name => !known.contains name

theorem firstUnknown?_cons_of_mem {known : List String} (bound : name ∈ known) :
    firstUnknown? known (name :: names) = firstUnknown? known names := by
  rw [firstUnknown?, List.find?_cons_of_neg (by simpa using bound)]
  rfl

theorem firstUnknown?_cons_of_not_mem {known : List String} (absent : name ∉ known) :
    firstUnknown? known (name :: names) = some name :=
  List.find?_cons_of_pos (by simpa using absent)

theorem firstUnknown?_eq_none_iff {known : List String} :
    firstUnknown? known names = none ↔ forall name, name ∈ names -> name ∈ known := by
  simp [firstUnknown?]

end Binding

namespace Pattern

open Binding

variable {bindings others : List (Binding String)}

/-- The names that are left go on taking values as those before them did,
until one of them has none. -/
theorem fillPieces_takes (last : String) {pieces : List (String × String)} {passed : List String}
    {earlier : List String} (takes : Takes bindings passed.reverse earlier) :
    (∃ values, Takes bindings (passed.reverse ++ pieces.map Prod.snd) (earlier ++ values) ∧
      Template.fillPieces (valueFor bindings) last passed pieces = .ok (String.ofList
        (Fragment.written (Template.fragments ⟨pieces, last⟩) (values.map String.toList)))) ∨
    ∃ name, firstUnknown? (Binding.names bindings) (pieces.map Prod.snd) = some name ∧
      Template.fillPieces (valueFor bindings) last passed pieces = .error (.missingBinding name) := by
  induction pieces generalizing passed earlier with
  | nil =>
      refine .inl ⟨[], ?_, ?_⟩
      · rw [List.map_nil, List.append_nil, List.append_nil]
        exact takes
      · rw [List.map_nil, Template.ofList_written_nil]
        rfl
  | cons piece rest inductiveHypothesis =>
      rcases piece with ⟨literal, name⟩
      by_cases bound : name ∈ Binding.names bindings
      · rcases exists_valueAt? bound (passed.count name + 1) with ⟨value, found⟩
        have first : valueFor bindings name (passed.count name + 1) = .ok value := by
          rw [valueFor, found]
        rw [← List.count_reverse] at found
        have goesOn : Takes bindings (name :: passed).reverse (earlier ++ [value]) := by
          rw [List.reverse_cons]
          exact takes.snoc found
        rcases inductiveHypothesis goesOn with ⟨values, all, filled⟩ | ⟨other, unknown, fails⟩
        · rw [List.reverse_cons, List.append_assoc, List.append_assoc] at all
          refine .inl ⟨value :: values, all, Except.bind_eq_ok_iff.mpr ⟨value, first,
            Except.bind_eq_ok_iff.mpr ⟨_, filled, ?_⟩⟩⟩
          rw [Template.ofList_written_cons]
          rfl
        · refine .inr ⟨other, (firstUnknown?_cons_of_mem bound).trans unknown, ?_⟩
          rw [Template.fillPieces, first]
          exact Except.bind_eq_error_iff.mpr
            (.inr ⟨value, rfl, Except.bind_eq_error_iff.mpr (.inl fails)⟩)
      · have first : valueFor bindings name (passed.count name + 1) =
            .error (.missingBinding name) := by
          rw [valueFor, valueAt?_of_not_mem bound]
        refine .inr ⟨name, firstUnknown?_cons_of_not_mem bound, ?_⟩
        rw [Template.fillPieces, first]
        rfl

/-- What is filled in depends on the values for the names that occur, and on
no others. -/
theorem fillPieces_congr {value other : String -> Nat -> Outcome String} (last : String)
    {pieces : List (String × String)} (passed : List String)
    (same : forall name, name ∈ pieces.map Prod.snd -> value name = other name) :
    Template.fillPieces value last passed pieces = Template.fillPieces other last passed pieces := by
  induction pieces generalizing passed with
  | nil => rfl
  | cons piece rest inductiveHypothesis =>
      rcases piece with ⟨literal, name⟩
      rw [List.map_cons, List.forall_mem_cons] at same
      rw [Template.fillPieces, Template.fillPieces, same.1,
        inductiveHypothesis (name :: passed) same.2]

theorem apply_eq_of_valuesOf (pattern : Pattern)
    (same : forall name, name ∈ pattern.template.names ->
      valuesOf bindings name = valuesOf others name) :
    pattern.apply bindings = pattern.apply others := by
  rw [apply_eq_fillWith, apply_eq_fillWith]
  refine fillPieces_congr pattern.template.last [] fun name member => funext fun occurrence => ?_
  rw [valueFor, valueFor, valueAt?, valueAt?, same name member]

theorem apply_takes_or (pattern : Pattern) (bindings : List (Binding String)) :
    (∃ values, Takes bindings pattern.template.names values ∧
      pattern.apply bindings = .ok (String.ofList
        (Fragment.written pattern.fragments (values.map String.toList)))) ∨
    ∃ name, firstUnknown? (Binding.names bindings) pattern.template.names = some name ∧
      pattern.apply bindings = .error (.missingBinding name) := by
  have begun : Takes bindings [].reverse [] := takes_nil
  rw [apply_eq_fillWith]
  exact fillPieces_takes pattern.template.last begun

theorem apply_eq_ok_iff {pattern : Pattern} {text : String} :
    pattern.apply bindings = .ok text ↔
      ∃ values, Takes bindings pattern.template.names values ∧
        text = String.ofList (Fragment.written pattern.fragments (values.map String.toList)) := by
  rcases apply_takes_or pattern bindings with ⟨values, takes, filled⟩ | ⟨name, unknown, fails⟩
  · rw [filled, Except.ok.injEq]
    constructor
    · rintro rfl
      exact ⟨values, takes, rfl⟩
    · rintro ⟨others, takesOthers, rfl⟩
      rw [takes.unique takesOthers]
  · rw [fails]
    constructor
    · exact nofun
    · rintro ⟨values, takes, _⟩
      have known := firstUnknown?_eq_none_iff.mpr fun name => takes.bound
      cases unknown.symm.trans known

theorem apply_eq_error_iff {pattern : Pattern} {failure : Failure} :
    pattern.apply bindings = .error failure ↔
      ∃ name, firstUnknown? (Binding.names bindings) pattern.template.names = some name ∧
        failure = .missingBinding name := by
  rcases apply_takes_or pattern bindings with ⟨values, takes, filled⟩ | ⟨name, unknown, fails⟩
  · rw [filled]
    constructor
    · exact nofun
    · rintro ⟨name, unknown, _⟩
      have known := firstUnknown?_eq_none_iff.mpr fun name => takes.bound
      cases unknown.symm.trans known
  · rw [fails, Except.error.injEq, unknown]
    constructor
    · rintro rfl
      exact ⟨name, rfl, rfl⟩
    · rintro ⟨other, same, rfl⟩
      cases same
      rfl

theorem apply_append_last (pattern : Pattern) {name value : String}
    (last : (valuesOf bindings name).getLast? = some value) :
    pattern.apply (bindings ++ [⟨name, value⟩]) = pattern.apply bindings := by
  have values : valueFor (bindings ++ [⟨name, value⟩]) = valueFor bindings := by
    funext other occurrence
    rw [valueFor, valueFor, valueAt?_append_last last]
  rw [apply_eq_fillWith, apply_eq_fillWith, values]

/-- A pattern writes its literals with the values that the occurrences of its
placeholders take between them, each from the queue of its own name; it fails
exactly if a placeholder has no value, and names the first one then.  The
queues of its placeholders are all that matters: not the order of bindings of
different names, nor those of other names, nor another copy of a last value,
nor the expressions that the pattern binds. -/
theorem apply_takes (pattern : Pattern) (bindings : List (Binding String)) :
    (forall text, pattern.apply bindings = .ok text ↔
      ∃ values, Takes bindings pattern.template.names values ∧
        text = String.ofList (Fragment.written pattern.fragments (values.map String.toList))) ∧
    (forall failure, pattern.apply bindings = .error failure ↔
      ∃ name, firstUnknown? (Binding.names bindings) pattern.template.names = some name ∧
        failure = .missingBinding name) ∧
    (forall others, (forall name, name ∈ pattern.template.names ->
      valuesOf bindings name = valuesOf others name) ->
        pattern.apply bindings = pattern.apply others) ∧
    (forall name value, (valuesOf bindings name).getLast? = some value ->
      pattern.apply (bindings ++ [⟨name, value⟩]) = pattern.apply bindings) ∧
    forall other : Pattern, other.template = pattern.template ->
      other.apply bindings = pattern.apply bindings :=
  ⟨fun _ => apply_eq_ok_iff, fun _ => apply_eq_error_iff,
    fun _ same => apply_eq_of_valuesOf pattern same, fun _ _ last => apply_append_last pattern last,
    fun _ same => by rw [apply_eq_of_template same]⟩

end Pattern
end Stencil

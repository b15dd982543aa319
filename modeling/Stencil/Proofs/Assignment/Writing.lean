import Stencil.Proofs.Assignment.Splitting
import Stencil.Proofs.Template.Grammar

namespace Stencil
namespace Assignment

/-!
Writing an assignment.  Each equals sign of the name gets a backslash, and the
value is left as it is.  What is written so is read again: every sign of the
escaped name is escaped, and its last character is that of the name, so unless
that is a backslash, the sign behind the name is the first plain one.

Names with backslashes are excepted, for a backslash before a sign would be
lost.  No placeholder has such a name.

The main statement is `Assignment.parseAll_written`.
-/

variable {name : List Char} {character : Char}

def escape (name : List Char) : List Char :=
  name.flatMap fun character => if character = '=' then ['\\', '='] else [character]

/-- The assignment that gives the name the value. -/
def written (binding : Binding String) : String :=
  String.ofList (escape binding.name.toList) ++ "=" ++ binding.value

/-- The name can be written in an assignment.  It must not be empty, and a
backslash in it could not be told from one that escapes. -/
def IsWritable (name : String) : Prop :=
  name ≠ "" ∧ '\\' ∉ name.toList

instance : DecidablePred IsWritable :=
  fun name => inferInstanceAs (Decidable (name ≠ "" ∧ '\\' ∉ name.toList))

theorem escape_cons_sign (name : List Char) : escape ('=' :: name) = '\\' :: '=' :: escape name :=
  rfl

theorem escape_cons (noSign : character ≠ '=') (name : List Char) :
    escape (character :: name) = character :: escape name := by
  rw [escape, List.flatMap_cons, if_neg noSign]
  rfl

/-- Escaping does not change what a name ends in, so a backslash never comes
to stand before the sign that ends the name. -/
theorem getLast?_escape (name : List Char) : (escape name).getLast? = name.getLast? := by
  rcases List.eq_nil_or_concat name with rfl | ⟨front, last, rfl⟩
  · rfl
  · rw [List.concat_eq_append, escape, List.flatMap_append, List.flatMap_singleton,
      List.getLast?_concat]
    split
    case isTrue sign =>
      subst sign
      exact List.getLast?_append_of_ne_nil _ (List.cons_ne_nil _ _)
    case isFalse => exact List.getLast?_concat

theorem allEscaped_escape (name : List Char) : AllEscaped (escape name) := by
  induction name with
  | nil => exact allEscaped_of_not_mem List.not_mem_nil
  | cons character rest inductiveHypothesis =>
      by_cases sign : character = '='
      · subst sign
        exact inductiveHypothesis.pair
      · rw [escape_cons sign]
        exact inductiveHypothesis.cons sign

theorem unescape_cons (plain : character ≠ '\\') (rest : List Char) :
    unescape (character :: rest) = character :: unescape rest :=
  unescape.eq_3 character rest fun _ backslash _ => plain backslash

/-- Only backslashes of the name itself could be mistaken for those that were
put there. -/
theorem unescape_escape (plain : '\\' ∉ name) : unescape (escape name) = name := by
  induction name with
  | nil => rfl
  | cons character rest inductiveHypothesis =>
      rw [List.mem_cons, not_or] at plain
      have later := inductiveHypothesis plain.2
      by_cases sign : character = '='
      · subst sign
        rw [escape_cons_sign, unescape, later]
      · rw [escape_cons sign, unescape_cons (Ne.symm plain.1), later]

theorem toList_written (binding : Binding String) :
    (written binding).toList = escape binding.name.toList ++ '=' :: binding.value.toList := by
  rw [written, String.toList_append, String.toList_append, String.toList_ofList, List.append_assoc]
  rfl

/-- The sign written behind the name is the first plain one. -/
theorem splitsAtFirst_written (binding : Binding String) (plain : '\\' ∉ binding.name.toList) :
    SplitsAtFirst (written binding).toList (escape binding.name.toList) binding.value.toList where
  written := toList_written binding
  plain := by
    rw [getLast?_escape]
    exact fun last => plain (List.mem_of_getLast? last)
  earlier := allEscaped_escape binding.name.toList

theorem escape_ne_nil (named : name ≠ []) : escape name ≠ [] := by
  intro empty
  have last := getLast?_escape name
  rw [empty] at last
  exact named (List.getLast?_eq_none_iff.mp last.symm)

theorem parse_written {binding : Binding String} (writable : IsWritable binding.name) :
    parse (written binding) = .ok binding := by
  have named : binding.name.toList ≠ [] := fun empty => writable.1 (String.toList_eq_nil_iff.mp empty)
  rw [parse_of_splits (escape_ne_nil named) (.inl (splitsAtFirst_written binding writable.2)),
    unescape_escape writable.2, String.ofList_toList, String.ofList_toList]

/-- The names that placeholders may have can all be written. -/
theorem isWritable_of_isName {name : String} (isName : Template.IsName name.toList) :
    IsWritable name := by
  refine ⟨fun empty => isName.1 (String.toList_eq_nil_iff.mpr empty), fun backslash => ?_⟩
  rcases isName.2 '\\' backslash with letter | sign
  · revert letter
    decide
  · revert sign
    decide

/-- Assignments that are written for bindings whose names can be written are
read as these bindings, in their order, whatever the values; and so can be
written the names of all placeholders. -/
theorem parseAll_written :
    (forall bindings : List (Binding String),
      (forall binding, binding ∈ bindings -> IsWritable binding.name) ->
        parseAll (bindings.map written) = .ok bindings) ∧
    forall text template, Template.parse text = .ok template ->
      forall name, name ∈ template.names -> IsWritable name := by
  constructor
  · intro bindings writable
    have each : forall binding, binding ∈ bindings -> parse (written binding) = .ok binding :=
      fun _ member => parse_written (writable _ member)
    rw [parseAll, List.mapM_map, Function.comp_def, Except.mapM_eq_ok_map each, List.map_id']
  · intro text template done name member
    exact isWritable_of_isName ((Template.characters_of_parse done).1 name member)

theorem parseAll_written_signs :
    parseAll ["\\=a\\==\\", "a\\=\\=b==", "a=\\=\n"] =
      .ok [⟨"=a=", "\\"⟩, ⟨"a==b", "="⟩, ⟨"a", "\\=\n"⟩] :=
  parseAll_written.1 [⟨"=a=", "\\"⟩, ⟨"a==b", "="⟩, ⟨"a", "\\=\n"⟩] (by decide)

end Assignment
end Stencil

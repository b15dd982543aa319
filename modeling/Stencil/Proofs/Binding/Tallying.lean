import Mathlib.Data.List.Nodup
import Stencil.Binding

namespace Stencil

/-!
Comparing the names of two lists of bindings by a tally.  While the names on
the right are struck off, the count of every name on the left is the number of
its bindings there less the number of times it has been struck, and no name
has been struck too often.  A name can be struck once more exactly if that
leaves this so.  The comparison ends early where it cannot: then the name has
more bindings on the right than on the left, and nothing that follows could
make up for it.  If it does not end early then all the counts are zero exactly
if every name has been struck as often as it was counted.

The main statement is `Binding.sameNames_decides`.
-/

/-- A list that holds each key once gives it the value that stands beside
it. -/
theorem lookup_of_mem {Value : Type} {entries : List (String × Value)} {entry : String × Value}
    (distinct : (entries.map Prod.fst).Nodup) (member : entry ∈ entries) :
    entries.lookup entry.1 = some entry.2 := by
  rcases List.append_of_mem member with ⟨front, back, rfl⟩
  apply List.lookup_eq_some_iff.mpr
  refine ⟨front, back, rfl, ?_⟩
  intro earlier among
  rw [List.map_append, List.map_cons, List.nodup_middle] at distinct
  apply bne_iff_ne.mpr
  intro same
  apply (List.nodup_cons.mp distinct).1
  rw [same]
  exact List.mem_append_left _ (List.mem_map_of_mem among)

namespace Tally

variable {tally : Tally} {name other : String} {count : Int} {wanted struck names : List String}

/-- Counting names raises the count of each by the number of its
occurrences. -/
theorem get?_foldl_add (names : List String) (tally : Tally) (name : String) :
    (names.foldl add tally).get? name =
      if name ∈ names then some ((tally.get? name).getD 0 + names.count name)
      else tally.get? name := by
  induction names generalizing tally with
  | nil => rfl
  | cons first rest inductiveHypothesis =>
      rw [List.foldl_cons, inductiveHypothesis, add, Dictionary.get?_set]
      by_cases same : name = first
      · subst same
        rw [if_pos rfl, if_pos List.mem_cons_self, List.count_cons_self, Option.getD_some]
        by_cases again : name ∈ rest
        · rw [if_pos again]
          congr 1
          omega
        · rw [if_neg again, List.count_eq_zero.mpr again]
          rfl
      · rw [if_neg same, List.count_cons_of_ne (Ne.symm same)]
        simp only [List.mem_cons, same, false_or]

theorem get?_ofNames (names : List String) (name : String) :
    (ofNames names).get? name =
      if name ∈ names then some (names.count name : Int) else none := by
  rw [ofNames, get?_foldl_add]
  simp [Dictionary.get?_empty]

/-- What is left of a tally of the wanted names when these have been struck,
none of them too often.  A name that has been struck as often as it is wanted
is still there, with a count of zero. -/
structure Remains (wanted struck : List String) (tally : Tally) : Prop where
  get? : forall name, tally.get? name =
    if name ∈ wanted then some ((wanted.count name : Int) - struck.count name) else none
  within : forall name, struck.count name ≤ wanted.count name

theorem remains_ofNames (wanted : List String) : Remains wanted [] (ofNames wanted) := by
  refine ⟨fun name => ?_, fun name => Nat.zero_le _⟩
  rw [get?_ofNames, List.count_nil, Int.natCast_zero, Int.sub_zero]

/-- A name that has not yet been struck as often as it is wanted can be
struck. -/
theorem Remains.strike (remains : Remains wanted struck tally)
    (left : struck.count name < wanted.count name) :
    ∃ next, tally.strike? name = some next ∧ Remains wanted (name :: struck) next := by
  have among : name ∈ wanted := List.count_pos_iff.mp (Nat.zero_lt_of_lt left)
  have found := remains.get? name
  rw [if_pos among] at found
  have positive : ¬ (wanted.count name : Int) - struck.count name - 1 < 0 := by omega
  refine ⟨tally.set name ((wanted.count name : Int) - struck.count name - 1), ?_, ?_⟩
  · rw [strike?, found]
    exact if_neg positive
  · constructor
    case get? =>
      intro other
      rw [Dictionary.get?_set]
      by_cases same : other = name
      · subst same
        rw [if_pos rfl, if_pos among, List.count_cons_self]
        congr 1
        omega
      · rw [if_neg same, remains.get?, List.count_cons_of_ne (Ne.symm same)]
    case within =>
      intro other
      by_cases same : other = name
      · subst same
        rw [List.count_cons_self]
        exact left
      · rw [List.count_cons_of_ne (Ne.symm same)]
        exact remains.within other

/-- No other name can: either it was never wanted, or its count would become
negative. -/
theorem Remains.strike_eq_none (remains : Remains wanted struck tally)
    (spent : wanted.count name ≤ struck.count name) : tally.strike? name = none := by
  have found := remains.get? name
  by_cases among : name ∈ wanted
  · rw [if_pos among] at found
    have negative : (wanted.count name : Int) - struck.count name - 1 < 0 := by omega
    rw [strike?, found]
    exact if_pos negative
  · rw [if_neg among] at found
    rw [strike?, found]

/-- Names are all struck, or else one of them comes up more often than it is
wanted. -/
theorem Remains.strikeAll (remains : Remains wanted struck tally) (names : List String) :
    (∃ final, names.foldlM strike? tally = some final ∧
      Remains wanted (names.reverse ++ struck) final) ∨
    (names.foldlM strike? tally = none ∧
      ∃ name, wanted.count name < (names.reverse ++ struck).count name) := by
  induction names generalizing struck tally with
  | nil => exact .inl ⟨tally, rfl, remains⟩
  | cons name rest inductiveHypothesis =>
      rw [List.reverse_cons, List.append_assoc, List.singleton_append, List.foldlM_cons]
      by_cases left : struck.count name < wanted.count name
      · rcases remains.strike left with ⟨next, strikes, goesOn⟩
        rw [strikes]
        exact inductiveHypothesis goesOn
      · rw [remains.strike_eq_none (Nat.le_of_not_lt left)]
        refine .inr ⟨rfl, name, ?_⟩
        rw [List.count_append, List.count_cons_self]
        omega

theorem isCleared_iff :
    tally.isCleared = true ↔ forall name count, tally.get? name = some count -> count = 0 := by
  rw [isCleared, List.all_eq_true]
  constructor
  · intro cleared name count found
    rcases List.lookup_eq_some_iff.mp found with ⟨front, back, written, _⟩
    have among : (name, count) ∈ tally.entries := written ▸ List.mem_append_right _ List.mem_cons_self
    exact eq_of_beq (cleared (name, count) among)
  · intro counts entry among
    exact beq_iff_eq.mpr (counts entry.1 entry.2 (lookup_of_mem tally.distinct among))

/-- Nothing is left exactly if the names struck are those wanted, each as
often. -/
theorem Remains.isCleared_iff (remains : Remains wanted struck tally) :
    tally.isCleared = true ↔ forall name, wanted.count name = struck.count name := by
  rw [Tally.isCleared_iff]
  constructor
  · intro counts name
    have within := remains.within name
    by_cases among : name ∈ wanted
    · have balanced := counts name _ ((remains.get? name).trans (if_pos among))
      omega
    · rw [List.count_eq_zero.mpr among] at within ⊢
      omega
  · intro same name count found
    rw [remains.get?, same] at found
    split at found
    · rw [Int.sub_self] at found
      exact (Option.some.inj found).symm
    · cases found

end Tally

namespace Binding

variable {Value Other : Type}

/-- Two lists of bindings pass the comparison exactly if they name everything
equally often. -/
theorem sameNames_iff_count {left : List (Binding Value)} {right : List (Binding Other)} :
    sameNames left right = true ↔ forall name, (names left).count name = (names right).count name := by
  unfold sameNames
  rcases (Tally.remains_ofNames (names left)).strikeAll (names right) with
    ⟨final, strikes, remains⟩ | ⟨stops, name, tooOften⟩
  · rw [strikes]
    refine remains.isCleared_iff.trans (forall_congr' fun name => ?_)
    rw [List.append_nil, List.count_reverse]
  · rw [stops]
    rw [List.append_nil, List.count_reverse] at tooOften
    constructor
    · exact nofun
    · intro same
      exact absurd (same name) (Nat.ne_of_lt tooOften)

/-- The comparison decides whether the names on the right are those on the
left in some order, each as often, whatever the values.  So it is an
equivalence, and the order of neither list matters to it. -/
theorem sameNames_decides (Value Other : Type) :
    (forall (left : List (Binding Value)) (right : List (Binding Other)),
      sameNames left right = true ↔ (names right).Perm (names left)) ∧
    Equivalence (fun left right : List (Binding Value) => sameNames left right = true) ∧
    forall (left reordered : List (Binding Value)) (right shuffled : List (Binding Other)),
      left.Perm reordered -> right.Perm shuffled ->
        sameNames left right = sameNames reordered shuffled := by
  refine ⟨fun left right => ?_, ⟨fun list => ?_, fun same => ?_, fun first second => ?_⟩, ?_⟩
  · rw [sameNames_iff_count, List.perm_comm, List.perm_iff_count]
  · exact sameNames_iff_count.mpr fun name => rfl
  · exact sameNames_iff_count.mpr fun name => (sameNames_iff_count.mp same name).symm
  · exact sameNames_iff_count.mpr fun name =>
      (sameNames_iff_count.mp first name).trans (sameNames_iff_count.mp second name)
  · intro left reordered right shuffled sameLeft sameRight
    have leftNames : (names left).Perm (names reordered) := sameLeft.map _
    have rightNames : (names right).Perm (names shuffled) := sameRight.map _
    rw [Bool.eq_iff_iff, sameNames_iff_count, sameNames_iff_count]
    simp only [leftNames.count_eq, rightNames.count_eq]

end Binding
end Stencil

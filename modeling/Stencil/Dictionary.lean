namespace Stencil

/-!
Dictionaries: values kept under names.  Setting the value of a name replaces
the one it has; the entries stand in the order in which their names were first
met.
-/

structure Dictionary (Value : Type) where
  entries : List (String × Value)
  /-- No name has two entries. -/
  distinct : (entries.map Prod.fst).Nodup
  deriving DecidableEq, Repr

namespace Dictionary

variable {Value : Type} {name other : String} {value : Value} {entries : List (String × Value)}

/-- The entries with this value for the name, in the place of the one it has,
or else at the end. -/
def enter (name : String) (value : Value) : List (String × Value) -> List (String × Value)
  | [] => [(name, value)]
  | entry :: rest =>
      if entry.1 = name then (name, value) :: rest else entry :: enter name value rest

theorem mem_names_enter :
    other ∈ (enter name value entries).map Prod.fst ↔
      other = name ∨ other ∈ entries.map Prod.fst := by
  induction entries with
  | nil => simp [enter]
  | cons entry rest inductiveHypothesis =>
      unfold enter
      split
      · rename_i same
        rw [List.map_cons, List.map_cons, same, List.mem_cons, or_self_left]
      · rw [List.map_cons, List.map_cons, List.mem_cons, List.mem_cons, inductiveHypothesis,
          or_left_comm]

theorem nodup_names_enter (distinct : (entries.map Prod.fst).Nodup) :
    ((enter name value entries).map Prod.fst).Nodup := by
  induction entries with
  | nil => exact List.nodup_cons.mpr ⟨List.not_mem_nil, List.nodup_nil⟩
  | cons entry rest inductiveHypothesis =>
      rw [List.map_cons, List.nodup_cons] at distinct
      unfold enter
      split
      · rename_i same
        exact List.nodup_cons.mpr ⟨same ▸ distinct.1, distinct.2⟩
      · rename_i different
        refine List.nodup_cons.mpr ⟨fun again => ?_, inductiveHypothesis distinct.2⟩
        rcases mem_names_enter.mp again with same | among
        · exact different same
        · exact distinct.1 among

def empty : Dictionary Value := ⟨[], List.nodup_nil⟩

def get? (dictionary : Dictionary Value) (name : String) : Option Value :=
  dictionary.entries.lookup name

def set (dictionary : Dictionary Value) (name : String) (value : Value) : Dictionary Value :=
  ⟨enter name value dictionary.entries, nodup_names_enter dictionary.distinct⟩

theorem lookup_cons_eq_ite (entry : String × Value) (rest : List (String × Value))
    (name : String) :
    (entry :: rest).lookup name = if name = entry.1 then some entry.2 else rest.lookup name := by
  rw [List.lookup_cons]
  by_cases same : name = entry.1
  · rw [if_pos same, beq_iff_eq.mpr same]
  · rw [if_neg same, beq_eq_false_iff_ne.mpr same]

theorem lookup_enter :
    (enter name value entries).lookup other =
      if other = name then some value else entries.lookup other := by
  induction entries with
  | nil => exact lookup_cons_eq_ite (name, value) [] other
  | cons entry rest inductiveHypothesis =>
      by_cases held : entry.1 = name
      · rw [enter, if_pos held, lookup_cons_eq_ite, lookup_cons_eq_ite, held]
        by_cases same : other = name
        · rw [if_pos same, if_pos same]
        · rw [if_neg same, if_neg same, if_neg same]
      · rw [enter, if_neg held, lookup_cons_eq_ite, lookup_cons_eq_ite, inductiveHypothesis]
        by_cases same : other = name
        · rw [if_pos same, if_pos same, if_neg fun again => held (again.symm.trans same)]
        · rw [if_neg same, if_neg same]

theorem get?_empty (name : String) : (empty : Dictionary Value).get? name = none := rfl

theorem get?_set (dictionary : Dictionary Value) (name other : String) (value : Value) :
    (dictionary.set name value).get? other =
      if other = name then some value else dictionary.get? other :=
  lookup_enter

end Dictionary

end Stencil

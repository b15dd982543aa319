import Mathlib.Data.List.Forall2
import Stencil.Regex.Reading.Assembly

namespace Stencil
namespace Regex
namespace Expr

/-!
What the branches of a group amount to.  Alternatives are not kept as they are
written: what all branches begin with is taken out, and single characters
become a set.  Here it is said once what can come of them, and which
properties of the branches the result has: those that an expression has
exactly if its parts have them, and the width.

The main statements are `amounts_alternatives`, `alternatives_shared`,
`IsHereditary.alternatives` and `width_alternatives`.
-/

/-! ## What is shared -/

/-- What is shared is at the front of every branch, the first one included. -/
theorem sharedLeaves_begins {first : List Expr} {others : List (List Expr)} {branch : List Expr}
    (member : branch ∈ first :: others) : sharedLeaves first others <+: branch := by
  induction first generalizing others branch with
  | nil => exact List.nil_prefix
  | cons item rest inductiveHypothesis =>
      rw [sharedLeaves]
      split
      · rename_i shared
        have heads := (Bool.and_eq_true_iff.mp shared).2
        rcases List.mem_cons.mp member with rfl | other
        · exact List.cons_prefix_cons.mpr ⟨rfl, inductiveHypothesis List.mem_cons_self⟩
        · have head := eq_of_beq (List.all_eq_true.mp heads branch other)
          cases branch with
          | nil => cases head
          | cons front tail =>
              cases head
              have among : tail ∈ rest :: others.map List.tail :=
                List.mem_cons_of_mem _ (List.mem_map.mpr ⟨_, other, rfl⟩)
              exact List.cons_prefix_cons.mpr ⟨rfl, inductiveHypothesis among⟩
      · exact List.nil_prefix

theorem isLeaf_of_mem_sharedLeaves {first : List Expr} {others : List (List Expr)} {item : Expr}
    (member : item ∈ sharedLeaves first others) : item.isLeaf = true := by
  induction first generalizing others with
  | nil => cases member
  | cons head rest inductiveHypothesis =>
      rw [sharedLeaves] at member
      split at member
      · rename_i shared
        rcases List.mem_cons.mp member with rfl | later
        · exact (Bool.and_eq_true_iff.mp shared).1
        · exact inductiveHypothesis later
      · cases member

/-- What branches amount to: the one branch there is, or what they share and
then a set or a choice.  There is a set only if each of them has just one
character left. -/
inductive Amounts : List (List Expr) -> List Expr -> Prop where
  | none : Amounts [] []
  | one (branch : List Expr) : Amounts [branch] branch
  | members {shared : List Expr} {rests : List (List Expr)} {members : List (List Member)}
      (leaves : forall item, item ∈ shared -> item.isLeaf = true) (nonempty : rests ≠ [])
      (each : List.Forall₂ (fun rest part => branchMembers? rest = some part) rests members) :
      Amounts (rests.map (shared ++ ·)) (shared ++ [.set false members.flatten.eraseDups])
  | choice {shared : List Expr} {rests : List (List Expr)}
      (leaves : forall item, item ∈ shared -> item.isLeaf = true) (several : 1 < rests.length) :
      Amounts (rests.map (shared ++ ·)) (shared ++ [Expr.choice (rests.map sequence)])

theorem forall₂_of_mapM_eq_some {First Second : Type} {make : First -> Option Second}
    {items : List First} {made : List Second} (done : items.mapM make = some made) :
    List.Forall₂ (fun item one => make item = some one) items made := by
  induction items generalizing made with
  | nil =>
      cases done
      exact .nil
  | cons item rest inductiveHypothesis =>
      rw [List.mapM_cons] at done
      rcases Option.bind_eq_some_iff.mp done with ⟨first, head, later⟩
      rcases Option.bind_eq_some_iff.mp later with ⟨others, tail, same⟩
      cases same
      exact .cons head (inductiveHypothesis tail)

def afterShared (rests : List (List Expr)) : Expr :=
  match rests.mapM branchMembers? with
  | some members => .set false members.flatten.eraseDups
  | none => choice (rests.map sequence)

theorem alternatives_several (first second : List Expr) (others : List (List Expr)) :
    alternatives (first :: second :: others) =
      sharedLeaves first (second :: others) ++ [afterShared ((first :: second :: others).map
        (List.drop (sharedLeaves first (second :: others)).length))] := by
  unfold alternatives afterShared
  dsimp only
  generalize (first :: second :: others).map _ = rests
  cases rests.mapM branchMembers? <;> rfl

theorem amounts_alternatives (branches : List (List Expr)) :
    Amounts branches (alternatives branches) := by
  rcases branches with _ | ⟨first, _ | ⟨second, others⟩⟩
  · exact .none
  · exact .one first
  · let shared := sharedLeaves first (second :: others)
    let rests := (first :: second :: others).map (List.drop shared.length)
    have leaves : forall item, item ∈ shared -> item.isLeaf = true :=
      fun _ => isLeaf_of_mem_sharedLeaves
    have whole : rests.map (shared ++ ·) = first :: second :: others := by
      rw [List.map_map]
      conv => rhs; rw [← List.map_id (first :: second :: others)]
      apply List.map_congr_left
      intro branch member
      exact List.prefix_iff_eq_append.mp (sharedLeaves_begins member)
    have nonempty : rests ≠ [] := List.cons_ne_nil _ _
    have several : 1 < rests.length := by
      rw [List.length_map]
      exact Nat.lt_add_left others.length (Nat.lt_succ_self 1)
    rw [alternatives_several, afterShared]
    conv => arg 1; rw [← whole]
    split
    · rename_i members parts
      exact .members leaves nonempty (forall₂_of_mapM_eq_some parts)
    · exact .choice leaves several

/-- Leaves that all branches begin with are shared. -/
theorem sharedLeaves_append {front : List Expr}
    (leaves : forall item, item ∈ front -> item.isLeaf = true) (first : List Expr)
    (others : List (List Expr)) :
    sharedLeaves (front ++ first) (others.map (front ++ ·)) = front ++ sharedLeaves first others := by
  induction front with
  | nil => exact congrArg (sharedLeaves first) (List.map_id others)
  | cons item rest inductiveHypothesis =>
      have leaf := leaves item List.mem_cons_self
      have heads : (others.map (item :: rest ++ ·)).all (fun branch => branch.head? == some item) =
          true := by
        rw [List.all_map]
        exact List.all_eq_true.mpr fun _ _ => beq_self_eq_true (some item)
      have tails : (others.map (item :: rest ++ ·)).map List.tail = others.map (rest ++ ·) := by
        rw [List.map_map]
        rfl
      rw [List.cons_append, sharedLeaves, leaf, heads, Bool.and_true, if_pos rfl, tails,
        inductiveHypothesis fun other member => leaves other (List.mem_cons_of_mem _ member)]
      rfl

/-- What branches amount to goes on after the leaves that all of them begin
with. -/
theorem alternatives_shared {front : List Expr}
    (leaves : forall item, item ∈ front -> item.isLeaf = true) {rests : List (List Expr)}
    (nonempty : rests ≠ []) :
    alternatives (rests.map (front ++ ·)) = front ++ alternatives rests := by
  rcases rests with _ | ⟨first, _ | ⟨second, others⟩⟩
  · exact absurd rfl nonempty
  · rfl
  · have shared := sharedLeaves_append leaves first (second :: others)
    have drops : ((first :: second :: others).map (front ++ ·)).map
          (List.drop (front ++ sharedLeaves first (second :: others)).length) =
        (first :: second :: others).map
          (List.drop (sharedLeaves first (second :: others)).length) := by
      rw [List.map_map, List.length_append]
      apply List.map_congr_left
      intro branch _
      exact List.drop_length_add_append _
    calc
      alternatives ((first :: second :: others).map (front ++ ·)) =
          sharedLeaves (front ++ first) ((second :: others).map (front ++ ·)) ++
            [afterShared (((first :: second :: others).map (front ++ ·)).map (List.drop
              (sharedLeaves (front ++ first) ((second :: others).map (front ++ ·))).length))] :=
        alternatives_several _ _ _
      _ = front ++ alternatives (first :: second :: others) := by
        rw [shared, drops, alternatives_several, List.append_assoc]

/-- A branch that amounts to members of a set is one plain character or one
set. -/
theorem branchMembers?_eq_some {items : List Expr} {members : List Member}
    (single : branchMembers? items = some members) :
    (∃ code, items = [.literal false code] ∧ members = [.code code]) ∨
      items = [.set false members] := by
  unfold branchMembers? at single
  split at single
  · rename_i code
    cases single
    exact .inl ⟨code, rfl, rfl⟩
  · cases single
    exact .inr rfl
  · cases single

/-! ## Properties of the parts -/

/-- A sequence passes the test if its parts do, and only then.  Such a test
can be made of the items of a branch one by one. -/
structure IsSequential (test : Expr -> Bool) : Prop where
  empty : test .empty = true
  seq (first second : Expr) : test (.seq first second) = (test first && test second)

/-- So do alternatives.  A branch that amounts to members of a set passes as
that set does, and sets may be joined. -/
structure IsHereditary (test : Expr -> Bool) : Prop extends IsSequential test where
  alt (first second : Expr) : test (.alt first second) = (test first && test second)
  branch {items : List Expr} {members : List Member} : branchMembers? items = some members ->
    items.all test = test (.set false members)
  join (members : List (List Member)) :
    test (.set false members.flatten.eraseDups) = members.all fun part => test (.set false part)

theorem IsSequential.sequence {test : Expr -> Bool} (sequential : IsSequential test)
    (items : List Expr) : test (sequence items) = items.all test := by
  induction items with
  | nil => exact sequential.empty
  | cons item rest inductiveHypothesis =>
      cases rest with
      | nil => exact (Bool.and_true _).symm
      | cons second others =>
          rw [Expr.sequence, sequential.seq, inductiveHypothesis]
          · rfl
          · exact nofun

namespace IsHereditary

variable {test : Expr -> Bool}

theorem choice (hereditary : IsHereditary test) (branches : List Expr) :
    test (choice branches) = branches.all test := by
  induction branches with
  | nil => exact hereditary.empty
  | cons branch rest inductiveHypothesis =>
      cases rest with
      | nil => exact (Bool.and_true _).symm
      | cons second others =>
          rw [Expr.choice, hereditary.alt, inductiveHypothesis]
          · rfl
          · exact nofun

theorem choice_sequences (hereditary : IsHereditary test) (branches : List (List Expr)) :
    test (Expr.choice (branches.map Expr.sequence)) = branches.all fun branch => branch.all test := by
  rw [hereditary.choice, List.all_map]
  simp only [Function.comp_def, hereditary.sequence]

/-- Branches that begin alike pass if what they share does and what remains of
each does. -/
theorem all_shared (test : Expr -> Bool) (shared : List Expr) {rests : List (List Expr)}
    (nonempty : rests ≠ []) :
    (rests.map (shared ++ ·)).all (fun branch => branch.all test) =
      (shared.all test && rests.all fun rest => rest.all test) := by
  rw [List.all_map]
  induction rests with
  | nil => exact absurd rfl nonempty
  | cons rest others inductiveHypothesis =>
      cases others with
      | nil => simp [List.all_append]
      | cons second more =>
          rw [List.all_cons, inductiveHypothesis (List.cons_ne_nil _ _)]
          simp only [Function.comp_def, List.all_append, List.all_cons]
          cases shared.all test <;> simp

theorem all_members (hereditary : IsHereditary test) {rests : List (List Expr)}
    {members : List (List Member)}
    (each : List.Forall₂ (fun rest part => branchMembers? rest = some part) rests members) :
    rests.all (fun rest => rest.all test) = members.all fun part => test (.set false part) := by
  induction each with
  | nil => rfl
  | cons first _ inductiveHypothesis =>
      rw [List.all_cons, List.all_cons, hereditary.branch first, inductiveHypothesis]

/-- What alternatives amount to passes if all branches do.  Taking out what
they share, and joining sets, makes no difference to the test. -/
theorem alternatives (hereditary : IsHereditary test) (branches : List (List Expr)) :
    (alternatives branches).all test = branches.all fun branch => branch.all test := by
  have amounts := amounts_alternatives branches
  generalize Expr.alternatives branches = items at amounts
  cases amounts with
  | none => rfl
  | one => exact (Bool.and_true _).symm
  | @members shared rests members leaves nonempty each =>
      rw [all_shared test shared nonempty, List.all_append, hereditary.all_members each,
        List.all_cons, hereditary.join, List.all_nil, Bool.and_true]
  | @choice shared rests leaves several =>
      rw [all_shared test shared (List.ne_nil_of_length_pos (Nat.lt_of_succ_lt several)),
        List.all_append, List.all_cons, hereditary.choice_sequences, List.all_nil, Bool.and_true]

end IsHereditary

end Expr

/-! ## Widths -/

namespace Width

theorem add_zero (width : Width) : width.add (.exactly 0) = width := by
  rcases width with ⟨low, high⟩
  cases high <;> rfl

theorem zero_add (width : Width) : (exactly 0).add width = width := by
  rcases width with ⟨low, high⟩
  cases high <;> simp [add, exactly]

theorem add_assoc (first second third : Width) :
    (first.add second).add third = first.add (second.add third) := by
  rcases first with ⟨firstLow, firstHigh⟩
  rcases second with ⟨secondLow, secondHigh⟩
  rcases third with ⟨thirdLow, thirdHigh⟩
  cases firstHigh <;> cases secondHigh <;> cases thirdHigh <;> simp [add, Nat.add_assoc]

/-- A width in front of two others is in front of what they have in common. -/
theorem add_join (front first second : Width) :
    (front.add first).join (front.add second) = front.add (first.join second) := by
  rcases front with ⟨frontLow, frontHigh⟩
  rcases first with ⟨firstLow, firstHigh⟩
  rcases second with ⟨secondLow, secondHigh⟩
  cases frontHigh <;> cases firstHigh <;> cases secondHigh <;>
    simp [add, join, Nat.add_min_add_left, Nat.add_max_add_left]

theorem join_self (width : Width) : width.join width = width := by
  rcases width with ⟨low, high⟩
  cases high <;> simp [join]

end Width

namespace Expr

theorem width_sequence_cons (item : Expr) (rest : List Expr) :
    (sequence (item :: rest)).width = item.width.add (sequence rest).width := by
  cases rest with
  | nil => exact (Width.add_zero _).symm
  | cons second others => rfl

theorem width_sequence_append (front back : List Expr) :
    (sequence (front ++ back)).width = (sequence front).width.add (sequence back).width := by
  induction front with
  | nil => exact (Width.zero_add _).symm
  | cons item rest inductiveHypothesis =>
      rw [List.cons_append, width_sequence_cons, width_sequence_cons, inductiveHypothesis,
        Width.add_assoc]

theorem width_choice_shared (shared : List Expr) {rests : List (List Expr)}
    (nonempty : rests ≠ []) :
    (choice ((rests.map (shared ++ ·)).map sequence)).width =
      (sequence shared).width.add (choice (rests.map sequence)).width := by
  induction rests with
  | nil => exact absurd rfl nonempty
  | cons rest others inductiveHypothesis =>
      cases others with
      | nil => exact width_sequence_append shared rest
      | cons second more =>
          have later := inductiveHypothesis (List.cons_ne_nil _ _)
          have joined : (choice (((rest :: second :: more).map (shared ++ ·)).map sequence)).width =
              (sequence (shared ++ rest)).width.join
                (choice (((second :: more).map (shared ++ ·)).map sequence)).width := rfl
          rw [joined, width_sequence_append, later, Width.add_join]
          rfl

theorem width_of_branchMembers? {items : List Expr} {members : List Member}
    (single : branchMembers? items = some members) : (sequence items).width = .exactly 1 := by
  rcases branchMembers?_eq_some single with ⟨code, rfl, rfl⟩ | rfl <;> rfl

theorem width_choice_members {rests : List (List Expr)} {members : List (List Member)}
    (each : List.Forall₂ (fun rest part => branchMembers? rest = some part) rests members)
    (nonempty : rests ≠ []) : (choice (rests.map sequence)).width = .exactly 1 := by
  induction each with
  | nil => exact absurd rfl nonempty
  | @cons rest part others parts first later inductiveHypothesis =>
      cases later with
      | nil => exact width_of_branchMembers? first
      | @cons second _ more _ next further =>
          have joined : (choice ((rest :: second :: more).map sequence)).width =
              (sequence rest).width.join (choice ((second :: more).map sequence)).width := rfl
          rw [joined, width_of_branchMembers? first, inductiveHypothesis (List.cons_ne_nil _ _)]
          exact Width.join_self _

/-- Alternatives are as wide as the choice between the branches, though they
need not be that choice. -/
theorem width_alternatives (branches : List (List Expr)) :
    (sequence (alternatives branches)).width = (choice (branches.map sequence)).width := by
  have amounts := amounts_alternatives branches
  generalize alternatives branches = items at amounts
  cases amounts with
  | none => rfl
  | one => rfl
  | @members shared rests members leaves nonempty each =>
      rw [width_sequence_append, width_choice_shared shared nonempty,
        width_choice_members each nonempty]
      rfl
  | @choice shared rests leaves several =>
      rw [width_sequence_append,
        width_choice_shared shared (List.ne_nil_of_length_pos (Nat.lt_of_succ_lt several))]
      rfl

end Expr
end Regex
end Stencil

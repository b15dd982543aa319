import Stencil.Proofs.Reading.Branches
import Stencil.Proofs.Running.Equivalence
import Stencil.Proofs.Running.Folding

namespace Stencil
namespace Regex

/-!
Alternatives are run as the choice between the branches, although they are not
kept as one.  Taking out what the branches share tries the same places, since
it leads to one place at most.  A set that stands for several single
characters tries a place once where the choice may try it several times, and
it admits what the characters admit, provided that they may be listed in a
set.  Only where a group is among the alternatives are they kept from becoming
a set by it.

The main statement is `Expr.equivalent_alternatives`.
-/

namespace Member

/-- Whether the member may be listed in a set without a change of meaning.
Ranges and classes are in a set already. -/
def isListable (flags : Flags) : Member -> Bool
  | .code only => Regex.isListable flags only
  | _ => true

end Member

namespace Expr

/-- Whether every code point in the expression may as well be listed in a set,
under the flags that hold where it stands.  What is negated is never joined to
a set. -/
def isListable : Expr -> Flags -> Bool
  | .literal negated code, flags => negated || Regex.isListable flags code
  | .set negated members, flags => negated || members.all (Member.isListable flags)
  | .seq first second, flags => first.isListable flags && second.isListable flags
  | .alt first second, flags => first.isListable flags && second.isListable flags
  | .repeated _ _ _ body, flags => body.isListable flags
  | .capture _ body, flags => body.isListable flags
  | .flagged change body, flags => body.isListable (change.apply flags)
  | .atomic body, flags => body.isListable flags
  | .look _ _ body, flags => body.isListable flags
  | .conditional _ captured otherwise, flags =>
      captured.isListable flags && otherwise.isListable flags
  | _, _ => true

/-- Whether groups may be taken out without a change of meaning: where one
stands among alternatives, the code points of these may as well be listed in a
set. -/
def isSeparable : Expr -> Flags -> Bool
  | .seq first second, flags => first.isSeparable flags && second.isSeparable flags
  | .alt first second, flags =>
      first.isGroupFree && second.isGroupFree || first.isListable flags && second.isListable flags
  | .repeated _ _ _ body, flags => body.isSeparable flags
  | .capture _ body, flags => body.isSeparable flags
  | .flagged change body, flags => body.isSeparable (change.apply flags)
  | .atomic body, flags => body.isSeparable flags
  | .look _ _ body, flags => body.isSeparable flags
  | .conditional _ captured otherwise, flags =>
      captured.isSeparable flags && otherwise.isSeparable flags
  | _, _ => true

theorem isSeparable_of_isListable {expr : Expr} {flags : Flags}
    (listable : expr.isListable flags = true) : expr.isSeparable flags = true := by
  induction expr generalizing flags with
  | seq first second firstSeparable secondSeparable =>
      have both := Bool.and_eq_true_iff.mp listable
      exact Bool.and_eq_true_iff.mpr ⟨firstSeparable both.1, secondSeparable both.2⟩
  | alt first second _ _ => exact Bool.or_eq_true_iff.mpr (.inr listable)
  | conditional group captured otherwise capturedSeparable otherwiseSeparable =>
      have both := Bool.and_eq_true_iff.mp listable
      exact Bool.and_eq_true_iff.mpr ⟨capturedSeparable both.1, otherwiseSeparable both.2⟩
  | repeated mode low high body bodySeparable => exact bodySeparable listable
  | capture group body bodySeparable => exact bodySeparable listable
  | flagged change body bodySeparable => exact bodySeparable listable
  | atomic body bodySeparable => exact bodySeparable listable
  | look behind negated body bodySeparable => exact bodySeparable listable
  | _ => rfl

theorem isSequential_isSeparable (flags : Flags) :
    IsSequential fun expr => expr.isSeparable flags where
  empty := rfl
  seq _ _ := rfl

theorem isSeparable_of_isLeaf {expr : Expr} (leaf : expr.isLeaf = true) (flags : Flags) :
    expr.isSeparable flags = true := by
  cases expr <;> first | rfl | cases leaf

theorem isGroupFree_of_isLeaf {expr : Expr} (leaf : expr.isLeaf = true)
    (positional : expr.isPositional = true) : expr.isGroupFree = true := by
  cases expr with
  | reference group width => cases positional
  | _ => first | rfl | cases leaf

theorem all_isGroupFree_of_isLeaf {items : List Expr}
    (leaves : forall item, item ∈ items -> item.isLeaf = true)
    (positional : items.all isPositional = true) : items.all isGroupFree = true :=
  List.all_eq_true.mpr fun item member =>
    isGroupFree_of_isLeaf (leaves item member) (List.all_eq_true.mp positional item member)

theorem isHereditary_isPositional : IsHereditary isPositional where
  empty := rfl
  seq _ _ := rfl
  alt _ _ := rfl
  branch single := by
    rcases branchMembers?_eq_some single with ⟨code, rfl, rfl⟩ | rfl <;> rfl
  join members := by
    have all : members.all (fun part => (set false part).isPositional) = true :=
      List.all_eq_true.mpr fun _ _ => rfl
    rw [all]
    rfl

theorem isHereditary_isGroupFree : IsHereditary isGroupFree where
  empty := rfl
  seq _ _ := rfl
  alt _ _ := rfl
  branch single := by
    rcases branchMembers?_eq_some single with ⟨code, rfl, rfl⟩ | rfl <;> rfl
  join members := by
    have all : members.all (fun part => (set false part).isGroupFree) = true :=
      List.all_eq_true.mpr fun _ _ => rfl
    rw [all]
    rfl

theorem isHereditary_isListable (flags : Flags) : IsHereditary fun expr => expr.isListable flags where
  empty := rfl
  seq _ _ := rfl
  alt _ _ := rfl
  branch single := by
    rcases branchMembers?_eq_some single with ⟨code, rfl, rfl⟩ | rfl
    · simp [isListable, Member.isListable]
    · simp
  join members := by
    rw [Bool.eq_iff_iff]
    simp only [isListable, Bool.false_or, List.all_eq_true, List.mem_eraseDups, List.mem_flatten]
    constructor
    · exact fun all part among member inPart => all member ⟨part, among, inPart⟩
    · rintro all member ⟨part, among, inPart⟩
      exact all part among member inPart

variable {text : Array Char} {flags : Flags}

/-! ## What is shared -/

theorem ways_sequence_append (front back : List Expr) (cursor : Cursor) :
    ways text (sequence (front ++ back)) flags cursor =
      (ways text (sequence front) flags cursor).flatMap (ways text (sequence back) flags) := by
  induction front generalizing cursor with
  | nil => exact (List.flatMap_singleton _ _).symm
  | cons item rest inductiveHypothesis =>
      rw [List.cons_append, ways_sequence_cons, ways_sequence_cons, List.flatMap_assoc]
      exact congrArg (ways text item flags cursor).flatMap (funext inductiveHypothesis)

/-- A leaf leads to one place at most, so there is nothing to turn back to in
it. -/
theorem length_ways_of_isLeaf {expr : Expr} (leaf : expr.isLeaf = true) (cursor : Cursor) :
    (ways text expr flags cursor).length ≤ 1 := by
  have consumed : forall admits, (Ways.consume text admits cursor).length ≤ 1 := by
    intro admits
    unfold Ways.consume
    split
    · split <;> simp
    · simp
  cases expr with
  | literal negated code => exact consumed _
  | any => exact consumed _
  | set negated members => exact consumed _
  | anchor anchor =>
      unfold ways Ways.stay
      split <;> simp
  | reference group width =>
      unfold ways
      split
      · simp
      · split <;> simp
  | _ => cases leaf

theorem length_flatMap_le_one {First Second : Type} {items : List First}
    {more : First -> List Second} (few : items.length ≤ 1)
    (each : forall item, (more item).length ≤ 1) : (items.flatMap more).length ≤ 1 := by
  match items with
  | [] => exact Nat.zero_le _
  | [item] =>
      rw [List.flatMap_singleton]
      exact each item
  | _ :: _ :: _ => simp at few

theorem length_ways_of_areLeaves {items : List Expr}
    (leaves : forall item, item ∈ items -> item.isLeaf = true) (cursor : Cursor) :
    (ways text (sequence items) flags cursor).length ≤ 1 := by
  induction items generalizing cursor with
  | nil => exact Nat.le_refl _
  | cons item rest inductiveHypothesis =>
      rw [ways_sequence_cons]
      apply length_flatMap_le_one
      · exact length_ways_of_isLeaf (leaves item List.mem_cons_self) cursor
      · exact inductiveHypothesis fun other member => leaves other (List.mem_cons_of_mem _ member)

/-- From one place at most, going on in two ways is going on in one and then
in the other. -/
theorem flatMap_append_of_length {First Second : Type} {items : List First}
    (few : items.length ≤ 1) (more further : First -> List Second) :
    items.flatMap more ++ items.flatMap further =
      items.flatMap fun item => more item ++ further item := by
  match items with
  | [] => rfl
  | [item] => simp only [List.flatMap_singleton]
  | _ :: _ :: _ => simp at few

/-- Leaves that all branches begin with may be taken out of the choice: the
places are the same and in the same order. -/
theorem ways_choice_shared {shared : List Expr}
    (leaves : forall item, item ∈ shared -> item.isLeaf = true) {rests : List (List Expr)}
    (nonempty : rests ≠ []) (cursor : Cursor) :
    ways text (choice ((rests.map (shared ++ ·)).map sequence)) flags cursor =
      (ways text (sequence shared) flags cursor).flatMap
        (ways text (choice (rests.map sequence)) flags) := by
  induction rests with
  | nil => exact absurd rfl nonempty
  | cons rest others inductiveHypothesis =>
      cases others with
      | nil => exact ways_sequence_append shared rest cursor
      | cons second more =>
          have tried : ways text
                (choice (((rest :: second :: more).map (shared ++ ·)).map sequence)) flags cursor =
              ways text (sequence (shared ++ rest)) flags cursor ++ ways text
                (choice (((second :: more).map (shared ++ ·)).map sequence)) flags cursor := rfl
          rw [tried, ways_sequence_append, inductiveHypothesis (List.cons_ne_nil _ _),
            flatMap_append_of_length (length_ways_of_areLeaves leaves cursor)]
          rfl

/-! ## Sets -/

/-- Trying a character twice is trying it once, since the second try finds the
same place as the first. -/
theorem equivalent_consume_append (first second : Nat -> Bool) :
    Ways.Equivalent
      (fun cursor => Ways.consume text first cursor ++ Ways.consume text second cursor)
      (Ways.consume text fun candidate => first candidate || second candidate) := by
  intro cursor other same
  refine ⟨fun accept => ?_⟩
  unfold Ways.consume
  dsimp only
  rw [same]
  cases text[other.position]? with
  | none => rfl
  | some character =>
      dsimp only
      by_cases firstAdmits : first character.toNat = true
      · by_cases secondAdmits : second character.toNat = true
        · simp only [firstAdmits, secondAdmits, Bool.or_true, if_true, List.singleton_append,
            List.findSome?_cons, List.findSome?_nil, Cursor.moveTo]
          cases accept (other.position + 1) <;> rfl
        · simp [firstAdmits, secondAdmits, Cursor.moveTo]
      · by_cases secondAdmits : second character.toNat = true <;>
          simp [firstAdmits, secondAdmits, Cursor.moveTo]

theorem ways_of_branchMembers? (text : Array Char) {items : List Expr} {members : List Member}
    (single : branchMembers? items = some members)
    (listable : items.all (fun item => item.isListable flags) = true) :
    ways text (sequence items) flags =
      .consume text fun candidate => members.any (Member.admits flags candidate) := by
  rcases branchMembers?_eq_some single with ⟨code, rfl, rfl⟩ | rfl
  · have codeListable : Regex.isListable flags code = true := by
      simpa [isListable] using listable
    simp only [sequence, ways, Bool.bne_false, codeAdmits_eq_admits codeListable, List.any_cons,
      List.any_nil, Bool.or_false]
  · simp only [sequence, ways, Bool.bne_false, membersAdmit_eq_any]

theorem equivalent_choice_members (text : Array Char) {rests : List (List Expr)}
    {members : List (List Member)}
    (each : List.Forall₂ (fun rest part => branchMembers? rest = some part) rests members)
    (nonempty : rests ≠ [])
    (listable : rests.all (fun rest => rest.all fun item => item.isListable flags) = true) :
    (ways text (choice (rests.map sequence)) flags).Equivalent
      (.consume text fun candidate => members.flatten.any (Member.admits flags candidate)) := by
  induction each with
  | nil => exact absurd rfl nonempty
  | @cons rest part others parts first later inductiveHypothesis =>
      have both := Bool.and_eq_true_iff.mp (List.all_cons.symm.trans listable)
      have own := ways_of_branchMembers? text first both.1
      cases later with
      | nil =>
          have alone : ways text (choice [sequence rest]) flags =
              .consume text fun candidate => part.any (Member.admits flags candidate) := own
          rw [List.flatten_singleton]
          exact alone ▸ .consume _ _
      | @cons second _ more _ next further =>
          have front : (ways text (sequence rest) flags).Equivalent
              (.consume text fun candidate => part.any (Member.admits flags candidate)) :=
            own ▸ .consume _ _
          have back := inductiveHypothesis (List.cons_ne_nil _ _) both.2
          have joined := (front.append back).trans (equivalent_consume_append _ _)
          simp only [List.flatten_cons, List.any_append] at joined ⊢
          exact joined

theorem ways_joined (members : List (List Member)) :
    ways text (.set false members.flatten.eraseDups) flags =
      .consume text fun candidate => members.flatten.any (Member.admits flags candidate) := by
  have same : forall candidate,
      members.flatten.eraseDups.any (Member.admits flags candidate) =
        members.flatten.any (Member.admits flags candidate) := by
    intro candidate
    rw [Bool.eq_iff_iff]
    simp only [List.any_eq_true, List.mem_eraseDups]
  simp only [ways, Bool.bne_false, membersAdmit_eq_any, same]

/-- What is run as the choice between branches is so after what the branches
share. -/
theorem equivalent_choice_shared {shared items : List Expr} {rests : List (List Expr)}
    (leaves : forall item, item ∈ shared -> item.isLeaf = true) (nonempty : rests ≠ [])
    (positional : shared.all isPositional = true)
    (equivalent : (ways text (sequence items) flags).Equivalent
      (ways text (choice (rests.map sequence)) flags)) :
    (ways text (sequence (shared ++ items)) flags).Equivalent
      (ways text (choice ((rests.map (shared ++ ·)).map sequence)) flags) := by
  have front := equivalent_self text ((isHereditary_isPositional.sequence shared).trans positional)
    flags
  intro cursor other same
  rw [ways_sequence_append, ways_choice_shared leaves nonempty]
  exact (front cursor other same).flatMap equivalent

theorem exists_alt_of_several {rests : List (List Expr)} (several : 1 < rests.length) :
    ∃ first second, choice (rests.map sequence) = .alt first second := by
  rcases rests with _ | ⟨first, _ | ⟨second, others⟩⟩
  · cases several
  · exact absurd several (Nat.lt_irrefl 1)
  · exact ⟨sequence first, choice ((second :: others).map sequence), rfl⟩

/-- Groups may be taken out of a choice that has none, or else if its code
points may be listed. -/
theorem isSeparable_choice {rests : List (List Expr)} (several : 1 < rests.length) :
    (choice (rests.map sequence)).isSeparable flags =
      ((choice (rests.map sequence)).isGroupFree ||
        rests.all fun rest => rest.all fun item => item.isListable flags) := by
  rw [← (isHereditary_isListable flags).choice_sequences]
  rcases exists_alt_of_several several with ⟨first, second, same⟩
  rw [same]
  rfl

/-- Alternatives are run as the choice between the branches, if these ask for
no captures and their code points may be listed. -/
theorem equivalent_alternatives (text : Array Char) {branches : List (List Expr)}
    (positional : branches.all (fun branch => branch.all isPositional) = true)
    (listable : branches.all (fun branch => branch.all fun item => item.isListable flags) = true) :
    (ways text (sequence (alternatives branches)) flags).Equivalent
      (ways text (choice (branches.map sequence)) flags) := by
  have amounts := amounts_alternatives branches
  generalize alternatives branches = items at amounts
  cases amounts with
  | none => exact .here
  | one =>
      rw [List.all_cons, List.all_nil, Bool.and_true,
        ← isHereditary_isPositional.sequence] at positional
      exact equivalent_self text positional flags
  | @members shared rests members leaves nonempty each =>
      rw [IsHereditary.all_shared _ _ nonempty, Bool.and_eq_true] at positional listable
      have joined := equivalent_choice_members text each nonempty listable.2
      rw [← ways_joined] at joined
      exact equivalent_choice_shared leaves nonempty positional.1 joined.symm
  | @choice shared rests leaves several =>
      have nonempty := List.ne_nil_of_length_pos (Nat.lt_of_succ_lt several)
      rw [IsHereditary.all_shared _ _ nonempty, Bool.and_eq_true] at positional
      rw [← isHereditary_isPositional.choice_sequences] at positional
      have chosen := equivalent_self text positional.2 flags
      exact equivalent_choice_shared leaves nonempty positional.1 chosen

end Expr
end Regex
end Stencil

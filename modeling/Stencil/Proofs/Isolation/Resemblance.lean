import Stencil.Proofs.Reading.Comparison
import Stencil.Proofs.Running.Alternatives
import Stencil.Proofs.Running.FirstSet

namespace Stencil
namespace Regex

/-!
Expressions with and without their captures.  Items resemble other items if
they are as wide and lead to the same places, under all flags under which
groups may be taken out of them.  There is such a demand because a group that
captures is kept apart from what stands around it, and one that does not
dissolves: branches that are single characters without the group then become a
set.  Branches without captures become a set on both sides, for the two sides
are the same there.

Resemblance goes through all that reading does, with groups that capture on
the one side where there are plain groups on the other.
-/

/-- Whether a finished expression may hold this.  That repetition may be
switched off is left out: it is judged by the flags. -/
def Expr.isSound (expr : Expr) : Bool :=
  (expr.problem? false).isNone

/-- What is allowed where repetition is refused is allowed anywhere. -/
theorem Expr.isSound_of_problem? {repeatsRefused : Bool} {expr : Expr}
    (noProblem : expr.problem? repeatsRefused = none) : expr.isSound = true := by
  unfold isSound
  rw [Option.isNone_iff_eq_none]
  cases repeatsRefused with
  | false => exact noProblem
  | true =>
      induction expr with
      | seq first second firstSound secondSound =>
          unfold problem? at noProblem ⊢
          rw [Option.or_eq_none_iff] at noProblem ⊢
          exact ⟨firstSound noProblem.1, secondSound noProblem.2⟩
      | alt first second firstSound secondSound =>
          unfold problem? at noProblem ⊢
          rw [Option.or_eq_none_iff] at noProblem ⊢
          exact ⟨firstSound noProblem.1, secondSound noProblem.2⟩
      | repeated mode low high body bodySound => cases noProblem
      | capture group body bodySound => exact bodySound noProblem
      | flagged change body bodySound => exact bodySound noProblem
      | atomic body bodySound => exact bodySound noProblem
      | look behind negated body bodySound =>
          cases behind with
          | false => exact bodySound noProblem
          | true =>
              unfold problem? at noProblem ⊢
              rw [Option.or_eq_none_iff] at noProblem ⊢
              exact ⟨noProblem.1, bodySound noProblem.2⟩
      | conditional group captured otherwise capturedSound otherwiseSound =>
          unfold problem? at noProblem ⊢
          rw [Option.or_eq_none_iff] at noProblem ⊢
          exact ⟨capturedSound noProblem.1, otherwiseSound noProblem.2⟩
      | _ => rfl

theorem Expr.isHereditary_isSound : IsHereditary isSound where
  empty := rfl
  seq _ _ := Option.isNone_or
  alt _ _ := Option.isNone_or
  branch single := by
    rcases branchMembers?_eq_some single with ⟨code, rfl, rfl⟩ | rfl <;> rfl
  join members := by
    have all : members.all (fun part => (set false part).isSound) = true :=
      List.all_eq_true.mpr fun _ _ => rfl
    rw [all]
    rfl

theorem Expr.isHereditary_keepsUnicode : IsHereditary keepsUnicode where
  empty := rfl
  seq _ _ := rfl
  alt _ _ := rfl
  branch single := by
    rcases branchMembers?_eq_some single with ⟨code, rfl, rfl⟩ | rfl <;> rfl
  join members := by
    have all : members.all (fun part => (set false part).keepsUnicode) = true :=
      List.all_eq_true.mpr fun _ _ => rfl
    rw [all]
    rfl

/-- The items on the left, of which some may capture, mean the same as those
on the right.  They are equally wide and lead to the same places, provided
that groups may be taken out of them.  Without captures they are the same, and
in any case they begin with the same leaves, so that alternatives share
equally much on both sides. -/
structure Expr.Resemble (left right : List Expr) : Prop where
  leftPositional : left.all isPositional = true
  rightPositional : right.all isPositional = true
  width : (sequence left).width = (sequence right).width
  sound : left.all isSound = true -> right.all isSound = true
  unicode : left.all keepsUnicode = true -> right.all keepsUnicode = true
  same : left.all isGroupFree = true -> left = right
  leaves {front rest : List Expr} : left = front ++ rest ->
    (forall item, item ∈ front -> item.isLeaf = true) -> ∃ later, right = front ++ later ∧
      forall flags, rest.all (fun item => item.isListable flags) = true ->
        later.all (fun item => item.isListable flags) = true
  equivalent (text : Array Char) (flags : Flags) :
    left.all (fun item => item.isSeparable flags) = true ->
      (ways text (sequence left) flags).Equivalent (ways text (sequence right) flags)

/-- What may be put around a sequence: it is no leaf, does nothing but change
the flags and uses the width and the places of what is inside.  Groups with
flags, atomic groups, looks and repetitions are such. -/
structure Expr.GoesAround (around : Expr -> Expr) (change : Flags -> Flags) : Prop where
  notLeaf (body : Expr) : (around body).isLeaf = false
  positional (body : Expr) : (around body).isPositional = body.isPositional
  groupFree (body : Expr) : (around body).isGroupFree = body.isGroupFree
  listable (body : Expr) (flags : Flags) :
    (around body).isListable flags = body.isListable (change flags)
  separable (body : Expr) (flags : Flags) :
    (around body).isSeparable flags = body.isSeparable (change flags)
  width {one other : Expr} : one.width = other.width -> (around one).width = (around other).width
  sound {one other : Expr} : one.width = other.width -> (one.isSound = true -> other.isSound = true) ->
    (around one).isSound = true -> (around other).isSound = true
  unicode {one other : Expr} : (one.keepsUnicode = true -> other.keepsUnicode = true) ->
    (around one).keepsUnicode = true -> (around other).keepsUnicode = true
  equivalent {text : Array Char} {flags : Flags} {one other : Expr} : one.width = other.width ->
    (ways text one (change flags)).Equivalent (ways text other (change flags)) ->
      (ways text (around one) flags).Equivalent (ways text (around other) flags)

namespace Expr.Resemble

variable {left right : List Expr}

theorem refl {items : List Expr} (positional : items.all isPositional = true) :
    Resemble items items where
  leftPositional := positional
  rightPositional := positional
  width := rfl
  sound := id
  unicode := id
  same _ := rfl
  leaves written _ := ⟨_, written, fun _ => id⟩
  equivalent text flags _ :=
    equivalent_self text ((isHereditary_isPositional.sequence items).trans positional) flags

theorem simple {item : Expr} (isSimple : item.isSimple = true) : Resemble [item] [item] := by
  have positional : item.isPositional = true := by
    cases item <;> first | rfl | cases isSimple
  exact refl (Bool.and_eq_true_iff.mpr ⟨positional, rfl⟩)

theorem listable (resemble : Resemble left right) (flags : Flags)
    (listed : left.all (fun item => item.isListable flags) = true) :
    right.all (fun item => item.isListable flags) = true := by
  have written : left = [] ++ left := rfl
  rcases resemble.leaves written nofun with ⟨later, rfl, rightListed⟩
  exact rightListed flags listed

theorem append {first second third fourth : List Expr} (front : Resemble first second)
    (back : Resemble third fourth) : Resemble (first ++ third) (second ++ fourth) where
  leftPositional := by
    rw [List.all_append, front.leftPositional, back.leftPositional, Bool.true_and]
  rightPositional := by
    rw [List.all_append, front.rightPositional, back.rightPositional, Bool.true_and]
  width := by
    rw [width_sequence_append, width_sequence_append, front.width, back.width]
  sound isSound := by
    rw [List.all_append, Bool.and_eq_true] at isSound ⊢
    exact ⟨front.sound isSound.1, back.sound isSound.2⟩
  unicode keeps := by
    rw [List.all_append, Bool.and_eq_true] at keeps ⊢
    exact ⟨front.unicode keeps.1, back.unicode keeps.2⟩
  same free := by
    rw [List.all_append, Bool.and_eq_true] at free
    rw [front.same free.1, back.same free.2]
  leaves := by
    intro before rest written leaves
    rcases List.append_eq_append_iff.mp written with ⟨more, rfl, rfl⟩ | ⟨more, rfl, rfl⟩
    · have free : first.all isGroupFree = true := by
        refine List.all_eq_true.mpr fun item member => ?_
        exact isGroupFree_of_isLeaf (leaves item (List.mem_append_left _ member))
          (List.all_eq_true.mp front.leftPositional item member)
      rcases back.leaves rfl fun item member => leaves item (List.mem_append_right _ member) with
        ⟨later, rfl, listed⟩
      rw [← front.same free, ← List.append_assoc]
      exact ⟨later, rfl, listed⟩
    · rcases front.leaves rfl leaves with ⟨later, rfl, listed⟩
      refine ⟨later ++ fourth, List.append_assoc _ _ _, fun flags restListed => ?_⟩
      rw [List.all_append, Bool.and_eq_true] at restListed ⊢
      exact ⟨listed flags restListed.1, back.listable flags restListed.2⟩
  equivalent text flags separable := by
    rw [List.all_append, Bool.and_eq_true] at separable
    have before := front.equivalent text flags separable.1
    have after := back.equivalent text flags separable.2
    intro cursor other same
    rw [ways_sequence_append, ways_sequence_append]
    exact (before cursor other same).flatMap after

/-- A leaf is not found before an item that is none. -/
theorem exists_more_of_leaves {before front rest : List Expr} {item : Expr}
    (notLeaf : item.isLeaf = false) (written : before ++ [item] = front ++ rest)
    (leaves : forall other, other ∈ front -> other.isLeaf = true) :
    ∃ more, before = front ++ more ∧ rest = more ++ [item] := by
  rcases List.append_eq_append_iff.mp written with ⟨more, rfl, last⟩ | ⟨more, same, rfl⟩
  · cases more with
    | nil => exact ⟨[], (List.append_nil _).symm.trans (List.append_nil _).symm, last.symm⟩
    | cons other others =>
        have leaf := leaves other (List.mem_append_right _ List.mem_cons_self)
        rw [← (List.cons.inj last).1, notLeaf] at leaf
        cases leaf
  · exact ⟨more, same, rfl⟩

theorem wrap {around : Expr -> Expr} {change : Flags -> Flags} (goesAround : GoesAround around change)
    (inside : Resemble left right) :
    Resemble [around (sequence left)] [around (sequence right)] := by
  have all (test : Expr -> Bool) (item : Expr) : [item].all test = test item := by
    rw [List.all_cons, List.all_nil, Bool.and_true]
  have listed (items : List Expr) (flags : Flags) :
      [around (sequence items)].all (fun item => item.isListable flags) =
        items.all fun item => item.isListable (change flags) := by
    rw [all, goesAround.listable, (isHereditary_isListable _).sequence]
  constructor
  · rw [all, goesAround.positional, isHereditary_isPositional.sequence]
    exact inside.leftPositional
  · rw [all, goesAround.positional, isHereditary_isPositional.sequence]
    exact inside.rightPositional
  · exact goesAround.width inside.width
  · rw [all, all]
    apply goesAround.sound inside.width
    rw [isHereditary_isSound.sequence, isHereditary_isSound.sequence]
    exact inside.sound
  · rw [all, all]
    apply goesAround.unicode
    rw [isHereditary_keepsUnicode.sequence, isHereditary_keepsUnicode.sequence]
    exact inside.unicode
  · rw [all, goesAround.groupFree, isHereditary_isGroupFree.sequence]
    exact fun free => inside.same free ▸ rfl
  · intro front rest written leaves
    have alone : [] ++ [around (sequence left)] = front ++ rest := written
    rcases exists_more_of_leaves (goesAround.notLeaf _) alone leaves with ⟨more, nothing, rfl⟩
    rcases List.nil_eq_append_iff.mp nothing with ⟨rfl, rfl⟩
    refine ⟨_, rfl, fun flags => ?_⟩
    rw [List.nil_append, listed, listed]
    exact inside.listable (change flags)
  · intro text flags
    rw [all, goesAround.separable, (isSequential_isSeparable _).sequence]
    exact fun separable =>
      goesAround.equivalent inside.width (inside.equivalent text (change flags) separable)

/-- A group that captures resembles what is inside: it leads to the same
places, and it is as wide. -/
theorem capture (inside : Resemble left right) (group : Nat) :
    Resemble [.capture group (sequence left)] right := by
  have all (test : Expr -> Bool) (item : Expr) : [item].all test = test item := by
    rw [List.all_cons, List.all_nil, Bool.and_true]
  constructor
  · rw [all]
    exact (isHereditary_isPositional.sequence left).trans inside.leftPositional
  · exact inside.rightPositional
  · exact inside.width
  · rw [all]
    exact fun isSound => inside.sound ((isHereditary_isSound.sequence left).symm.trans isSound)
  · rw [all]
    exact fun keeps => inside.unicode ((isHereditary_keepsUnicode.sequence left).symm.trans keeps)
  · rw [all]
    exact nofun
  · intro front rest written leaves
    have alone : [] ++ [.capture group (sequence left)] = front ++ rest := written
    rcases exists_more_of_leaves rfl alone leaves with ⟨more, nothing, rfl⟩
    rcases List.nil_eq_append_iff.mp nothing with ⟨rfl, rfl⟩
    refine ⟨right, rfl, fun flags => ?_⟩
    rw [List.nil_append, all]
    exact fun listed =>
      inside.listable flags (((isHereditary_isListable flags).sequence left).symm.trans listed)
  · intro text flags
    rw [all]
    intro separable
    have each := ((isSequential_isSeparable flags).sequence left).symm.trans separable
    exact (inside.equivalent text flags each).capture group

theorem width_choice {lefts rights : List (List Expr)}
    (branches : List.Forall₂ Resemble lefts rights) :
    (choice (lefts.map sequence)).width = (choice (rights.map sequence)).width := by
  induction branches with
  | nil => rfl
  | @cons left right lefts rights first later inductiveHypothesis =>
      cases later with
      | nil => exact first.width
      | @cons second third others more next further =>
          have joined : (choice ((left :: second :: others).map sequence)).width =
              (sequence left).width.join (choice ((second :: others).map sequence)).width := rfl
          rw [joined, first.width, inductiveHypothesis]
          rfl

/-- Choices between branches that resemble one another lead to the same
places. -/
theorem equivalent_choice {lefts rights : List (List Expr)}
    (branches : List.Forall₂ Resemble lefts rights) (text : Array Char) {flags : Flags}
    (separable : lefts.all (fun branch => branch.all fun item => item.isSeparable flags) = true) :
    (ways text (choice (lefts.map sequence)) flags).Equivalent
      (ways text (choice (rights.map sequence)) flags) := by
  induction branches with
  | nil => exact .here
  | cons first later inductiveHypothesis =>
      rw [List.all_cons, Bool.and_eq_true] at separable
      have front := first.equivalent text flags separable.1
      cases later with
      | nil => exact front
      | cons next further => exact front.append (inductiveHypothesis separable.2)

theorem all_right {lefts rights : List (List Expr)} {leftTest rightTest : List Expr -> Bool}
    {related : List Expr -> List Expr -> Prop} (branches : List.Forall₂ related lefts rights)
    (each : forall {left right : List Expr}, related left right -> leftTest left = true ->
      rightTest right = true) (all : lefts.all leftTest = true) : rights.all rightTest = true := by
  induction branches with
  | nil => rfl
  | cons first _ inductiveHypothesis =>
      rw [List.all_cons, Bool.and_eq_true] at all ⊢
      exact ⟨each first all.1, inductiveHypothesis all.2⟩

/-- Branches without captures are the same, so taking groups out elsewhere
does not touch them. -/
theorem eq_of_groupFree {lefts rights : List (List Expr)}
    (branches : List.Forall₂ Resemble lefts rights)
    (free : lefts.all (fun branch => branch.all isGroupFree) = true) : lefts = rights := by
  induction branches with
  | nil => rfl
  | cons first _ inductiveHypothesis =>
      rw [List.all_cons, Bool.and_eq_true] at free
      rw [first.same free.1, inductiveHypothesis free.2]

/-- Where all branches on the left begin with the same leaves, those on the
right do. -/
theorem exists_laters {front : List Expr} {rests rights : List (List Expr)}
    (leaves : forall item, item ∈ front -> item.isLeaf = true)
    (branches : List.Forall₂ Resemble (rests.map (front ++ ·)) rights) :
    ∃ laters : List (List Expr), rights = laters.map (front ++ ·) ∧ laters.length = rests.length ∧
      forall flags, rests.all (fun rest => rest.all fun item => item.isListable flags) = true ->
        laters.all (fun later => later.all fun item => item.isListable flags) = true := by
  induction rests generalizing rights with
  | nil =>
      cases branches
      exact ⟨[], rfl, rfl, fun _ _ => rfl⟩
  | cons rest others inductiveHypothesis =>
      cases branches with
      | cons first more =>
          rcases first.leaves rfl leaves with ⟨later, rfl, listed⟩
          rcases inductiveHypothesis more with ⟨laters, rfl, sameLength, allListed⟩
          refine ⟨later :: laters, rfl, congrArg Nat.succ sameLength, fun flags all => ?_⟩
          rw [List.all_cons, Bool.and_eq_true] at all ⊢
          exact ⟨listed flags all.1, allListed flags all.2⟩

/-- Alternatives that begin with the same leaves as those on the left and then
have a choice. -/
theorem leaves_alternatives {shared front rest : List Expr} {rests rights : List (List Expr)}
    (several : 1 < rests.length)
    (branches : List.Forall₂ Resemble (rests.map (shared ++ ·)) rights)
    (written : shared ++ [Expr.choice (rests.map sequence)] = front ++ rest)
    (leaves : forall item, item ∈ front -> item.isLeaf = true) :
    ∃ later, alternatives rights = front ++ later ∧
      forall flags, rest.all (fun item => item.isListable flags) = true ->
        later.all (fun item => item.isListable flags) = true := by
  have notLeaf : (Expr.choice (rests.map sequence)).isLeaf = false := by
    rcases exists_alt_of_several several with ⟨first, second, same⟩
    rw [same]
    rfl
  rcases exists_more_of_leaves notLeaf written leaves with ⟨more, rfl, rfl⟩
  have regrouped : rests.map (front ++ more ++ ·) = (rests.map (more ++ ·)).map (front ++ ·) := by
    rw [List.map_map]
    exact List.map_congr_left fun branch _ => List.append_assoc front more branch
  rw [regrouped] at branches
  rcases exists_laters leaves branches with ⟨laters, rfl, sameLength, listed⟩
  have nonempty : laters ≠ [] := by
    rintro rfl
    rw [List.length_map] at sameLength
    rw [← sameLength] at several
    cases several
  refine ⟨alternatives laters, alternatives_shared leaves nonempty, fun flags restListed => ?_⟩
  rw [(isHereditary_isListable flags).alternatives]
  apply listed flags
  rw [List.all_append, List.all_cons, List.all_nil, Bool.and_true,
    (isHereditary_isListable flags).choice_sequences] at restListed
  rw [IsHereditary.all_shared _ _ (List.ne_nil_of_length_pos (Nat.lt_of_succ_lt several))]
  exact restListed

/-- Where groups may be taken out of a choice that has some, its branches may
be listed. -/
theorem listed_of_separable {shared : List Expr} {rests : List (List Expr)} {flags : Flags}
    (several : 1 < rests.length)
    (separable : (shared ++ [Expr.choice (rests.map sequence)]).all
      (fun item => item.isSeparable flags) = true)
    (grouped : (Expr.choice (rests.map sequence)).isGroupFree ≠ true) :
    rests.all (fun rest => rest.all fun item => item.isListable flags) = true := by
  rw [List.all_append, Bool.and_eq_true, List.all_cons, List.all_nil, Bool.and_true,
    isSeparable_choice several, Bool.or_eq_true] at separable
  exact separable.2.resolve_left grouped

/-- A choice between branches that may be listed resembles the alternatives on
the right. -/
theorem equivalent_listed {shared : List Expr} {rests rights : List (List Expr)}
    (shareLeaves : forall item, item ∈ shared -> item.isLeaf = true) (several : 1 < rests.length)
    (branches : List.Forall₂ Resemble (rests.map (shared ++ ·)) rights) (text : Array Char)
    {flags : Flags}
    (positional : (rests.map (shared ++ ·)).all (fun branch => branch.all isPositional) = true)
    (listed : rests.all (fun rest => rest.all fun item => item.isListable flags) = true) :
    (ways text (sequence (shared ++ [Expr.choice (rests.map sequence)])) flags).Equivalent
      (ways text (sequence (Expr.alternatives rights)) flags) := by
  have nonempty : rests ≠ [] := List.ne_nil_of_length_pos (Nat.lt_of_succ_lt several)
  have rightPositional : rights.all (fun branch => branch.all isPositional) = true :=
    all_right branches (fun resemble _ => resemble.rightPositional) positional
  have separable : (rests.map (shared ++ ·)).all
      (fun branch => branch.all fun item => item.isSeparable flags) = true := by
    rw [IsHereditary.all_shared _ _ nonempty, Bool.and_eq_true]
    constructor
    · exact List.all_eq_true.mpr fun item member =>
        isSeparable_of_isLeaf (shareLeaves item member) flags
    · refine List.all_eq_true.mpr fun rest among => List.all_eq_true.mpr fun item member => ?_
      apply isSeparable_of_isListable
      exact List.all_eq_true.mp (List.all_eq_true.mp listed rest among) item member
  have between := equivalent_choice branches text separable
  rcases exists_laters shareLeaves branches with ⟨laters, rfl, sameLength, latersListed⟩
  have someLater : laters ≠ [] := by
    rintro rfl
    exact nonempty (List.length_eq_zero_iff.mp sameLength.symm)
  rw [IsHereditary.all_shared _ _ nonempty, Bool.and_eq_true] at positional
  rw [IsHereditary.all_shared _ _ someLater, Bool.and_eq_true] at rightPositional
  rw [← isHereditary_isPositional.choice_sequences] at positional
  have chosen : (ways text (sequence [Expr.choice (rests.map sequence)]) flags).Equivalent
      (ways text (Expr.choice (rests.map sequence)) flags) :=
    equivalent_self text positional.2 flags
  have onLeft := equivalent_choice_shared shareLeaves nonempty positional.1 chosen
  have listedLaters := equivalent_alternatives text rightPositional.2 (latersListed flags listed)
  have onRight := equivalent_choice_shared shareLeaves someLater positional.1 listedLaters
  rw [alternatives_shared shareLeaves someLater]
  exact (onLeft.trans between).trans onRight.symm

/-- Alternatives resemble one another if the branches do.  Leaves that all
branches share are taken out on both sides, and what remains of the branches
is a choice again, or a set. -/
theorem alternatives {lefts rights : List (List Expr)}
    (branches : List.Forall₂ Resemble lefts rights) :
    Resemble (alternatives lefts) (alternatives rights) := by
  have leftPositional : lefts.all (fun branch => branch.all isPositional) = true := by
    induction branches with
    | nil => rfl
    | cons first _ inductiveHypothesis =>
        exact Bool.and_eq_true_iff.mpr ⟨first.leftPositional, inductiveHypothesis⟩
  have rightPositional : rights.all (fun branch => branch.all isPositional) = true :=
    all_right branches (fun resemble _ => resemble.rightPositional) leftPositional
  have positional := isHereditary_isPositional.alternatives lefts
  rw [leftPositional] at positional
  by_cases free : lefts.all (fun branch => branch.all isGroupFree) = true
  · rw [← eq_of_groupFree branches free]
    exact refl positional
  · have grouped := isHereditary_isGroupFree.alternatives lefts
    have width := width_alternatives lefts
    have sound := isHereditary_isSound.alternatives lefts
    have unicode := isHereditary_keepsUnicode.alternatives lefts
    have amounts := amounts_alternatives lefts
    generalize Expr.alternatives lefts = items at positional grouped width sound unicode amounts ⊢
    cases amounts with
    | none => exact absurd rfl free
    | one branch =>
        cases branches with
        | cons first later =>
            cases later
            exact first
    | @members shared rests members shareLeaves nonempty each =>
        refine absurd (grouped.symm.trans ?_) free
        rw [List.all_append, Bool.and_eq_true] at positional ⊢
        exact ⟨all_isGroupFree_of_isLeaf shareLeaves positional.1, rfl⟩
    | @choice shared rests shareLeaves several =>
        refine ⟨positional, ?_, ?_, ?_, ?_, fun isFree => ?_, ?_, fun text flags separable => ?_⟩
        · exact (isHereditary_isPositional.alternatives rights).trans rightPositional
        · rw [width, width_alternatives, width_choice branches]
        · rw [sound, isHereditary_isSound.alternatives]
          exact all_right branches fun resemble => resemble.sound
        · rw [unicode, isHereditary_keepsUnicode.alternatives]
          exact all_right branches fun resemble => resemble.unicode
        · exact absurd (grouped.symm.trans isFree) free
        · exact leaves_alternatives several branches
        · apply equivalent_listed shareLeaves several branches text leftPositional
          apply listed_of_separable several separable
          intro choiceFree
          refine absurd (grouped.symm.trans ?_) free
          rw [List.all_append, Bool.and_eq_true] at positional ⊢
          exact ⟨all_isGroupFree_of_isLeaf shareLeaves positional.1,
            Bool.and_eq_true_iff.mpr ⟨choiceFree, rfl⟩⟩

end Expr.Resemble

namespace Expr

theorem goesAround_flagged (change : FlagChange) : GoesAround (.flagged change) change.apply where
  notLeaf _ := rfl
  positional _ := rfl
  groupFree _ := rfl
  listable _ _ := rfl
  separable _ _ := rfl
  width := id
  sound _ := id
  unicode := by
    intro one other inside keeps
    rw [keepsUnicode, Bool.and_eq_true] at keeps ⊢
    exact ⟨keeps.1, inside keeps.2⟩
  equivalent _ := id

theorem goesAround_atomic : GoesAround .atomic id where
  notLeaf _ := rfl
  positional _ := rfl
  groupFree _ := rfl
  listable _ _ := rfl
  separable _ _ := rfl
  width := id
  sound _ := id
  unicode := id
  equivalent _ := .atomic

/-- A look goes around what it looks for.  Behind the place, this has to be as
wide, since that is how far back is looked. -/
theorem goesAround_look (behind negated : Bool) : GoesAround (.look behind negated) id where
  notLeaf _ := rfl
  positional _ := rfl
  groupFree _ := rfl
  listable _ _ := rfl
  separable _ _ := rfl
  width _ := rfl
  sound := by
    intro one other same sound
    cases behind with
    | false => exact sound
    | true =>
        unfold isSound problem?
        rw [Option.isNone_or, Option.isNone_or, Bool.and_eq_true, Bool.and_eq_true, same]
        exact And.imp_right sound
  unicode := id
  equivalent := by
    intro text flags one other same equivalent
    unfold ways
    rw [same]
    exact equivalent.look _ _

theorem goesAround_repeated (mode : RepeatMode) (low : Nat) (high : Option Nat) :
    GoesAround (.repeated mode low high) id where
  notLeaf _ := rfl
  positional _ := rfl
  groupFree _ := rfl
  listable _ _ := rfl
  separable _ _ := rfl
  width := congrArg fun width : Width => width.times low high
  sound _ := id
  unicode := id
  equivalent := by
    intro text flags one other _ equivalent cursor place same
    have rounds := equivalent.repeatedly mode low (extraRounds text low high place.position)
    unfold ways
    rw [same]
    exact rounds cursor place same

end Expr

/-- Groups that face each other: those that capture face plain ones, and
others their likes. -/
inductive GroupKind.Uncaptured : GroupKind -> GroupKind -> Prop where
  | capture (group : Nat) : Uncaptured (.capture group) .plain
  | plain : Uncaptured .plain .plain
  | flagged (change : FlagChange) : Uncaptured (.flagged change) (.flagged change)
  | atomic : Uncaptured .atomic .atomic
  | look (behind negated : Bool) (limit other : Option Nat) :
      Uncaptured (.look behind negated limit) (.look behind negated other)

/-- Groups that face each other close to items that resemble one another. -/
theorem Assembly.resemble_closedPiece {left right : Frame}
    (facing : GroupKind.Uncaptured left.kind right.kind)
    (branches : List.Forall₂ Expr.Resemble left.allBranches right.allBranches) :
    Expr.Resemble (closedPiece left).items (closedPiece right).items := by
  have inside : Expr.Resemble (items left) (items right) := .alternatives branches
  rcases left with ⟨leftKind, leftStart, leftVerbose, leftBranches, leftPieces⟩
  rcases right with ⟨rightKind, rightStart, rightVerbose, rightBranches, rightPieces⟩
  dsimp only at facing
  cases facing with
  | capture group => exact inside.capture group
  | plain => exact inside
  | flagged change => exact inside.wrap (Expr.goesAround_flagged change)
  | atomic => exact inside.wrap Expr.goesAround_atomic
  | look behind negated limit other => exact inside.wrap (Expr.goesAround_look behind negated)

namespace Comparison

/-- An expression compared with the same without captures.  Flags that it sets
for the whole are set on the right as well, or else have been moved to a group
there, and then none is set outside of it. -/
def uncaptured (rightKind : GroupKind) (rightBelow : List Frame) (moved : Flags) : Comparison where
  similar := Expr.Resemble
  kinds := GroupKind.Uncaptured
  leftKind := .whole
  rightKind := rightKind
  leftBelow := []
  rightBelow := rightBelow
  keeps left right :=
    left.flags = right.flags.union moved ∧ (rightBelow ≠ [] -> right.flags = {})

theorem isCongruent_uncaptured (rightKind : GroupKind) (rightBelow : List Frame) (moved : Flags) :
    (uncaptured rightKind rightBelow moved).IsCongruent where
  nil := .refl rfl
  append := .append
  simple := .simple
  repeated mode low high := .wrap (Expr.goesAround_repeated mode low high)
  closed := Assembly.resemble_closedPiece
  plain := .plain
  flagged := .flagged
  atomic := .atomic
  look := .look
  oneBase := .inl rfl
  keepsNotes := by
    rintro left right leftLater rightLater ⟨flags, inside⟩ leftNotes rightNotes
    rw [leftNotes.flags, rightNotes.flags] at flags
    exact ⟨flags, fun below => rightNotes.flags.symm.trans (inside below)⟩
  keepsClose := by
    rintro left right ⟨flags, inside⟩ _
    rw [← left.flags_close, ← right.flags_close] at flags
    exact ⟨flags, fun below => right.flags_close.trans (inside below)⟩
  keepsFlags := by
    rintro left right added ⟨flags, _⟩ _ noneBelow
    have same : left.flags.union added = (right.flags.union added).union moved := by
      rw [flags]
      simp only [Flags.union, Bool.or_left_comm, Bool.or_comm]
    exact ⟨same, fun below => absurd noneBelow below⟩

/-- A group that captures is entered together with a plain one.  The numbers
of the groups are noted on the left only. -/
theorem Similar.openCapture {rightKind : GroupKind} {rightBelow : List Frame} {moved : Flags}
    {left right opened : Assembly} {name : Option String} {start : Nat}
    (similar : (uncaptured rightKind rightBelow moved).Similar left right)
    (done : left.openCapture name start = .ok opened) (other : Nat) :
    (uncaptured rightKind rightBelow moved).Similar opened
      (right.openGroup .plain other right.frame.verbose) := by
  have same := similar.verbose
  rcases similar with ⟨verbose, stacked, leftFlags, rightFlags, flags, inside⟩
  rcases Assembly.openCapture_eq_ok done with rfl
  exact ⟨verbose, .push ⟨same, .nil, .nil⟩ (.capture _) stacked, leftFlags, rightFlags, flags,
    inside⟩

end Comparison

end Regex
end Stencil

import Stencil.Proofs.Text.CodeSet
import Stencil.Text.Alphabet
import Stencil.Text.Blank
import Stencil.Text.Case
import Stencil.Text.Digit

namespace Stencil
namespace Text

/-!
What the case tables say together.  A code point without another case is the
lower-case form of itself alone, and no class of letters that count as one has
it.  Going to lower case leaves words words, and makes nothing a digit or a
blank.  That is decided over the tables, from the list of all code points that
have a lower-case form of their own; no single form has to be looked up for
it.
-/

/-- Some code points as a number, with a bit for each.  Tables are compared as
such numbers, which is one computation for all of their entries. -/
def bitsOf (codes : List Nat) : Nat :=
  codes.foldr (fun code rest => 2 ^ code ||| rest) 0

theorem testBit_bitsOf (codes : List Nat) (code : Nat) :
    (bitsOf codes).testBit code = decide (code ∈ codes) := by
  unfold bitsOf
  induction codes with
  | nil => simp
  | cons first rest inductiveHypothesis =>
      rw [List.foldr_cons, Nat.testBit_or, Nat.testBit_two_pow, inductiveHypothesis]
      simp only [List.mem_cons, Bool.decide_or, eq_comm]

namespace Case

variable {code : Nat}

/-! ## Runs -/

namespace Run

variable {run : Run}

def members (run : Run) : List Nat :=
  (List.range ((run.last - run.first) / run.stride + 1)).map fun step =>
    run.first + step * run.stride

/-- The run has members, in steps, and moves every one of them.  The tables
are checked for it. -/
def isProper (run : Run) : Bool :=
  0 < run.stride && run.first ≤ run.last && run.shift != 0 && 0 ≤ run.first + run.shift

theorem contains_eq_true (contains : run.contains code = true) :
    run.first ≤ code ∧ code ≤ run.last ∧ (code - run.first) % run.stride = 0 := by
  simp only [Run.contains, Bool.and_eq_true, decide_eq_true_iff, beq_iff_eq] at contains
  exact ⟨contains.1.1, contains.1.2, contains.2⟩

theorem isProper_eq_true (proper : run.isProper = true) :
    0 < run.stride ∧ run.first ≤ run.last ∧ run.shift ≠ 0 ∧ 0 ≤ run.first + run.shift := by
  simp only [isProper, Bool.and_eq_true, decide_eq_true_iff, bne_iff_ne] at proper
  exact ⟨proper.1.1.1, proper.1.1.2, proper.1.2, proper.2⟩

theorem mem_members (contains : run.contains code = true) : code ∈ run.members := by
  rcases contains_eq_true contains with ⟨after, before, onStep⟩
  have fewer : (code - run.first) / run.stride ≤ (run.last - run.first) / run.stride :=
    Nat.div_le_div_right (by omega)
  refine List.mem_map.mpr ⟨(code - run.first) / run.stride, ?_, ?_⟩
  · exact List.mem_range.mpr (Nat.lt_succ_of_le fewer)
  · rw [Nat.div_mul_cancel (Nat.dvd_of_mod_eq_zero onStep)]
    omega

theorem contains_of_mem_members (proper : run.isProper = true) (member : code ∈ run.members) :
    run.contains code = true := by
  have parts := isProper_eq_true proper
  rcases List.mem_map.mp member with ⟨step, among, rfl⟩
  have few : step ≤ (run.last - run.first) / run.stride :=
    Nat.le_of_lt_succ (List.mem_range.mp among)
  have inside : step * run.stride ≤ run.last - run.first :=
    (Nat.le_div_iff_mul_le parts.1).mp few
  have onStep : (run.first + step * run.stride - run.first) % run.stride = 0 := by
    rw [Nat.add_sub_cancel_left, Nat.mul_mod_left]
  simp only [Run.contains, onStep, Bool.and_eq_true, decide_eq_true_iff, beq_self_eq_true, and_true]
  omega

theorem apply_ne (proper : run.isProper = true) (contains : run.contains code = true) :
    run.apply code ≠ code := by
  have parts := isProper_eq_true proper
  have after := (contains_eq_true contains).1
  unfold Run.apply
  omega

/-- A run with a member between two code points meets what lies between them:
the first member that is not before them is not behind them either. -/
theorem meets_of_contains {first last : Nat} (proper : run.isProper = true)
    (contains : run.contains code = true) (after : first ≤ code) (before : code ≤ last) :
    run.meets first last = true := by
  have positive := (isProper_eq_true proper).1
  rcases contains_eq_true contains with ⟨least, most, onStep⟩
  rcases Nat.dvd_of_mod_eq_zero onStep with ⟨steps, distance⟩
  have enough : (first - run.first + run.stride - 1) / run.stride ≤ steps := by
    have reached : first - run.first + run.stride - 1 < (steps + 1) * run.stride := by
      have near : first - run.first ≤ run.stride * steps := by omega
      rw [Nat.succ_mul, Nat.mul_comm steps]
      omega
    exact Nat.le_of_lt_succ ((Nat.div_lt_iff_lt_mul positive).mpr reached)
  have inside : (first - run.first + run.stride - 1) / run.stride * run.stride ≤
      run.stride * steps := by
    rw [Nat.mul_comm run.stride steps]
    exact Nat.mul_le_mul_right run.stride enough
  unfold Run.meets
  simp only [Bool.and_eq_true, decide_eq_true_iff]
  omega

end Run

theorem isProper_runs : (lowerRuns ++ upperRuns).all Run.isProper = true := by
  decide +kernel

theorem isProper_upperRuns {run : Run} (member : run ∈ upperRuns) : run.isProper = true :=
  List.all_eq_true.mp isProper_runs run (List.mem_append_right _ member)

/-- A form that runs give to a code point is given by a run that has it;
otherwise the code point keeps its own. -/
theorem throughRuns_ne {runs : List Run} (changed : throughRuns runs code ≠ code) :
    ∃ run, run ∈ runs ∧ run.contains code = true ∧ throughRuns runs code = run.apply code := by
  unfold throughRuns at changed ⊢
  split
  · rename_i run found
    have contains := List.find?_some (p := fun run : Run => run.contains code) found
    exact ⟨run, List.mem_of_find?_eq_some found, contains, rfl⟩
  · rename_i outside
    rw [outside] at changed
    exact absurd rfl changed

theorem throughRuns_ne_of_contains {runs : List Run} (proper : runs.all Run.isProper = true)
    {run : Run} (member : run ∈ runs) (contains : run.contains code = true) :
    throughRuns runs code ≠ code := by
  have isInside : (runs.find? fun run => run.contains code).isSome = true :=
    List.find?_isSome.mpr ⟨run, member, contains⟩
  rcases Option.isSome_iff_exists.mp isInside with ⟨other, found⟩
  have otherContains := List.find?_some (p := fun run : Run => run.contains code) found
  unfold throughRuns
  rw [found]
  apply Run.apply_ne (List.all_eq_true.mp proper other (List.mem_of_find?_eq_some found))
  exact otherContains

theorem mem_of_lookup {Value : Type} {entries : List (Nat × Value)} {value : Value}
    (found : entries.lookup code = some value) : (code, value) ∈ entries := by
  rcases List.lookup_eq_some_iff.mp found with ⟨before, after, rfl, _⟩
  exact List.mem_append_right _ List.mem_cons_self

/-! ## The code points with another case -/

/-- Every code point that has a lower-case form of its own, with the first
character of the form. -/
def lowered : List (Nat × Nat) :=
  lowerRuns.flatMap (fun run => run.members.map fun code => (code, run.apply code)) ++
    lowerExpansions.map fun entry => (entry.1, entry.2.headD entry.1)

theorem mem_lowered (changed : foldLower code ≠ code) : (code, foldLower code) ∈ lowered := by
  unfold foldLower lowerForm form at changed ⊢
  unfold lowered
  cases found : lowerExpansions.lookup code with
  | some codes =>
      apply List.mem_append_right
      exact List.mem_map.mpr ⟨(code, codes), mem_of_lookup found, rfl⟩
  | none =>
      rw [found] at changed
      rcases throughRuns_ne changed with ⟨run, member, contains, applied⟩
      apply List.mem_append_left
      refine List.mem_flatMap.mpr ⟨run, member, List.mem_map.mpr ⟨code, ?_, ?_⟩⟩
      · exact Run.mem_members contains
      · exact congrArg (Prod.mk code) applied.symm

def raised : List Nat :=
  upperRuns.flatMap Run.members ++ upperExpansions.map Prod.fst

theorem heads_upperExpansions : upperExpansions.all (fun entry =>
    entry.2.headD entry.1 != entry.1) = true := by
  decide +kernel

theorem changesCase_of_mem_raised (member : code ∈ raised) : changesCase code = true := by
  have changed : foldUpper code ≠ code := by
    unfold foldUpper upperForm form
    cases found : upperExpansions.lookup code with
    | some codes =>
        have differs := List.all_eq_true.mp heads_upperExpansions _ (mem_of_lookup found)
        exact bne_iff_ne.mp differs
    | none =>
        rcases List.mem_append.mp member with inRun | expanded
        · rcases List.mem_flatMap.mp inRun with ⟨run, among, ofRun⟩
          have proper := isProper_upperRuns among
          have allProper : upperRuns.all Run.isProper = true :=
            List.all_eq_true.mpr fun _ => isProper_upperRuns
          exact throughRuns_ne_of_contains allProper among
            (Run.contains_of_mem_members proper ofRun)
        · rcases List.mem_map.mp expanded with ⟨entry, among, rfl⟩
          have absent := List.lookup_eq_none_iff.mp found entry among
          simp at absent
  unfold changesCase
  rw [Bool.or_eq_true]
  exact .inr (bne_iff_ne.mpr changed)

/-- Every lower-case form has a case itself, and so does every letter that
counts as one with another. -/
theorem bits_raised :
    (lowered.all (fun entry => (bitsOf raised).testBit entry.2) &&
      siblingClasses.all (fun group => group.all fun code => (bitsOf raised).testBit code)) =
        true := by
  decide +kernel

theorem changesCase_of_testBit (isRaised : (bitsOf raised).testBit code = true) :
    changesCase code = true := by
  rw [testBit_bitsOf] at isRaised
  exact changesCase_of_mem_raised (of_decide_eq_true isRaised)

/-- What is the lower-case form of something else has a case, so folding never
leads from the cased to the caseless. -/
theorem changesCase_foldLower (changed : foldLower code ≠ code) :
    changesCase (foldLower code) = true := by
  have both := Bool.and_eq_true_iff.mp bits_raised
  exact changesCase_of_testBit (List.all_eq_true.mp both.1 _ (mem_lowered changed))

theorem foldLower_of_caseless (caseless : changesCase code = false) : foldLower code = code := by
  unfold changesCase at caseless
  rw [Bool.or_eq_false_iff] at caseless
  exact of_not_not fun changed => by simp [changed] at caseless

/-- A code point without another case is the lower-case form of itself
alone. -/
theorem foldLower_eq_iff (caseless : changesCase code = false) (other : Nat) :
    foldLower other = code ↔ other = code := by
  constructor
  · intro folded
    by_cases changed : foldLower other = other
    · exact changed.symm.trans folded
    · have cased := changesCase_foldLower changed
      rw [folded, caseless] at cased
      cases cased
  · rintro rfl
    exact foldLower_of_caseless caseless

theorem exists_siblingClass {other : Nat} (member : code ∈ siblings other) :
    ∃ group, group ∈ siblingClasses ∧ code ∈ group ∧ other ∈ group := by
  unfold siblings at member
  split at member
  · rename_i group found
    have contains := List.find?_some (p := fun group : List Nat => group.contains other) found
    exact ⟨group, List.mem_of_find?_eq_some found, (List.mem_filter.mp member).1,
      List.contains_iff_mem.mp contains⟩
  · cases member

theorem changesCase_of_mem_siblingClass {group : List Nat} (among : group ∈ siblingClasses)
    (member : code ∈ group) : changesCase code = true := by
  have both := Bool.and_eq_true_iff.mp bits_raised
  have all := List.all_eq_true.mp both.2 group among
  exact changesCase_of_testBit (List.all_eq_true.mp all code member)

/-- A code point without another case counts as one with no other letter. -/
theorem siblings_of_caseless (caseless : changesCase code = false) : siblings code = [] := by
  refine List.eq_nil_iff_forall_not_mem.mpr fun other member => ?_
  rcases exists_siblingClass member with ⟨group, among, _, own⟩
  rw [changesCase_of_mem_siblingClass among own] at caseless
  cases caseless

theorem not_mem_siblings_of_caseless (caseless : changesCase code = false) (other : Nat) :
    code ∉ siblings other := by
  intro member
  rcases exists_siblingClass member with ⟨group, among, own, _⟩
  rw [changesCase_of_mem_siblingClass among own] at caseless
  cases caseless

/-- Only code points of the basic plane count as one with others. -/
theorem siblings_of_beyond (beyond : 0x10000 ≤ code) : siblings code = [] := by
  have basic : siblingClasses.all (fun group => group.all fun member => member < 0x10000) = true := by
    decide +kernel
  refine List.eq_nil_iff_forall_not_mem.mpr fun other member => ?_
  rcases exists_siblingClass member with ⟨group, among, _, own⟩
  have below := List.all_eq_true.mp (List.all_eq_true.mp basic group among) code own
  exact absurd (of_decide_eq_true below) (Nat.not_lt_of_le beyond)

/-- Where nothing has another case, no code point has. -/
theorem caseless_of_someChangesCase {first last : Nat}
    (caseless : someChangesCase first last = false) (after : first ≤ code) (before : code ≤ last) :
    changesCase code = false := by
  rw [← Bool.not_eq_true]
  intro cased
  have met : someChangesCase first last = true := by
    have expands : forall codes, (code, codes) ∈ lowerExpansions ++ upperExpansions ->
        someChangesCase first last = true := by
      intro codes among
      unfold someChangesCase
      rw [Bool.or_eq_true]
      exact .inr (List.any_eq_true.mpr ⟨_, among, by simp [after, before, cased]⟩)
    have runs : forall run, run ∈ lowerRuns ++ upperRuns -> run.contains code = true ->
        someChangesCase first last = true := by
      intro run among contains
      have proper := List.all_eq_true.mp isProper_runs run among
      unfold someChangesCase
      rw [Bool.or_eq_true]
      exact .inl (List.any_eq_true.mpr
        ⟨run, among, Run.meets_of_contains proper contains after before⟩)
    unfold changesCase at cased
    rcases Bool.or_eq_true_iff.mp cased with lower | upper
    · have changed := bne_iff_ne.mp lower
      unfold foldLower lowerForm form at changed
      cases found : lowerExpansions.lookup code with
      | some codes => exact expands codes (List.mem_append_left _ (mem_of_lookup found))
      | none =>
          rw [found] at changed
          rcases throughRuns_ne changed with ⟨run, among, contains, _⟩
          exact runs run (List.mem_append_left _ among) contains
    · have changed := bne_iff_ne.mp upper
      unfold foldUpper upperForm form at changed
      cases found : upperExpansions.lookup code with
      | some codes => exact expands codes (List.mem_append_right _ (mem_of_lookup found))
      | none =>
          rw [found] at changed
          rcases throughRuns_ne changed with ⟨run, among, contains, _⟩
          exact runs run (List.mem_append_right _ among) contains
  rw [met] at caseless
  cases caseless

theorem foldLower_of_mem_foldSources {letter : Nat} (member : code ∈ foldSources letter) :
    foldLower code = letter := by
  have heads : lowerExpansions.all (fun entry =>
      entry.2.head? == some (foldLower entry.1)) = true := by
    decide +kernel
  unfold foldSources at member
  rcases List.mem_append.mp member with unexpanded | expanded
  · rcases List.mem_append.mp unexpanded with unchanged | shifted
    · by_cases own : (foldLower letter == letter) = true
      · rw [if_pos own, List.mem_singleton] at unchanged
        subst unchanged
        exact eq_of_beq own
      · rw [if_neg own] at unchanged
        cases unchanged
    · rcases List.mem_filterMap.mp shifted with ⟨run, _, source⟩
      dsimp only at source
      split at source
      · rename_i checked
        cases source
        exact eq_of_beq (Bool.and_eq_true_iff.mp checked).2
      · cases source
  · rcases List.mem_filterMap.mp expanded with ⟨⟨source, codes⟩, among, head⟩
    dsimp only at head
    split at head
    · rename_i checked
      cases head
      have agrees := eq_of_beq (List.all_eq_true.mp heads _ among)
      exact Option.some.inj (agrees.symm.trans (eq_of_beq checked))
    · cases head

theorem mem_foldSources_of_caseless (caseless : changesCase code = false) :
    code ∈ foldSources code := by
  unfold foldSources
  simp [foldLower_of_caseless caseless]

/-- Lower case keeps word characters, digits and blanks apart from all
else. -/
theorem masks_lowered : lowered.all (fun entry =>
    ((letters.mask ||| numerals.mask).testBit entry.1 ==
        (letters.mask ||| numerals.mask).testBit entry.2) &&
      (decimalDigits.mask.testBit entry.1 == decimalDigits.mask.testBit entry.2) &&
      (blanks.mask.testBit entry.1 == blanks.mask.testBit entry.2) &&
      ((entry.1 == '_'.toNat) == (entry.2 == '_'.toNat))) = true := by
  decide +kernel

end Case

/-! ## Properties that lower case keeps -/

open Case (foldLower lowered mem_lowered masks_lowered)

variable {code : Nat}

/-- A property that all lower-case forms in the tables share with what they
are forms of is kept. -/
theorem eq_foldLower_of_all {property : Nat -> Bool}
    (kept : forall entry, entry ∈ lowered -> property entry.1 = property entry.2) (code : Nat) :
    property (foldLower code) = property code := by
  by_cases changed : foldLower code = code
  · rw [changed]
  · exact (kept _ (mem_lowered changed)).symm

theorem areOrdered : forall set, set ∈ [letters, numerals, decimalDigits, blanks] ->
    set.IsOrdered := by
  decide +kernel

theorem masks_of_mem_lowered {entry : Nat × Nat} (member : entry ∈ lowered) :
    isWordCode entry.1 = isWordCode entry.2 ∧ isDecimalDigit entry.1 = isDecimalDigit entry.2 ∧
      isBlank entry.1 = isBlank entry.2 := by
  have checked := List.all_eq_true.mp masks_lowered entry member
  simp only [Bool.and_eq_true, beq_iff_eq, Nat.testBit_or] at checked
  rcases checked with ⟨⟨⟨words, digits⟩, blank⟩, underscores⟩
  have ordered (set : CodeSet) (among : set ∈ [letters, numerals, decimalDigits, blanks])
      (code : Nat) : set.contains code = set.mask.testBit code :=
    CodeSet.contains_eq_testBit (areOrdered set among) code
  simp only [isWordCode, isAlphanumeric, isLetter, isDecimalDigit, isBlank,
    ordered letters (by simp), ordered numerals (by simp), ordered decimalDigits (by simp),
    ordered blanks (by simp)]
  exact ⟨by rw [words, underscores], digits, blank⟩

theorem isWordCode_foldLower (code : Nat) : isWordCode (foldLower code) = isWordCode code :=
  eq_foldLower_of_all (fun _ member => (masks_of_mem_lowered member).1) code

theorem isDecimalDigit_foldLower (code : Nat) :
    isDecimalDigit (foldLower code) = isDecimalDigit code :=
  eq_foldLower_of_all (fun _ member => (masks_of_mem_lowered member).2.1) code

theorem isBlank_foldLower (code : Nat) : isBlank (foldLower code) = isBlank code :=
  eq_foldLower_of_all (fun _ member => (masks_of_mem_lowered member).2.2) code

end Text
end Stencil

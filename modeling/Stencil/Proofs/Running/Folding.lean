import Stencil.Proofs.Text.Case
import Stencil.Regex.Membership

namespace Stencil
namespace Regex

/-!
Sets and letters when case is ignored.  A set is folded as a whole if one of
its members has a case, and not at all otherwise; that makes no difference to
the members without one.  So a set admits what its members admit one by one,
and sets may be joined and divided.

A letter that stands alone is the set of itself, with one exception.  Beyond
the basic plane a set lists a letter as it is, so a letter that folds to
another is not admitted by its own set.

The main statements are `membersAdmit_eq_any` and `codeAdmits_eq_admits`.
-/

variable {unicode : Bool} {code : Nat}

/-! ## Code points without a case -/

/-- Nothing folds to a code point without a case but itself, so ignoring case
changes nothing for it. -/
theorem fold_eq_iff (caseless : hasCase unicode code = false) (other : Nat) :
    fold unicode other = code ↔ other = code := by
  cases unicode with
  | true => exact Text.Case.foldLower_eq_iff caseless other
  | false =>
      simp only [hasCase, Text.Case.isAsciiLetter, Bool.false_eq_true, if_false,
        Bool.or_eq_false_iff, Bool.and_eq_false_iff, decide_eq_false_iff_not] at caseless
      simp only [fold, Text.Case.foldAscii, Bool.false_eq_true, if_false, Bool.and_eq_true,
        decide_eq_true_iff]
      split <;> omega

theorem fold_of_caseless (caseless : hasCase unicode code = false) : fold unicode code = code :=
  (fold_eq_iff caseless code).mpr rfl

theorem sameLetter_of_caseless (caseless : hasCase unicode code = false) :
    sameLetter unicode code = [code] := by
  cases unicode with
  | true => exact congrArg (code :: ·) (Text.Case.siblings_of_caseless caseless)
  | false => rfl

theorem mem_sameLetter_iff (caseless : hasCase unicode code = false) (other : Nat) :
    code ∈ sameLetter unicode other ↔ code = other := by
  cases unicode with
  | true =>
      have notSibling := Text.Case.not_mem_siblings_of_caseless caseless other
      simp [sameLetter, notSibling]
  | false => exact List.mem_singleton

theorem fold_of_mem_foldsTo {letter : Nat} (member : code ∈ foldsTo unicode letter) :
    fold unicode code = letter := by
  cases unicode with
  | true => exact Text.Case.foldLower_of_mem_foldSources member
  | false =>
      simp only [foldsTo, Bool.false_eq_true, if_false, List.mem_append] at member
      rcases member with own | shifted
      · split at own
        · rename_i same
          cases List.mem_singleton.mp own
          exact eq_of_beq same
        · cases own
      · split at shifted
        · rename_i same
          cases List.mem_singleton.mp shifted
          exact eq_of_beq same
        · cases shifted

theorem mem_foldsTo_of_caseless (caseless : hasCase unicode code = false) :
    code ∈ foldsTo unicode code := by
  cases unicode with
  | true => exact Text.Case.mem_foldSources_of_caseless caseless
  | false =>
      have folded : Text.Case.foldAscii code = code := fold_of_caseless caseless
      simp [foldsTo, folded]

theorem caseless_of_isCased_range {first last : Nat}
    (uncased : Member.isCased unicode (.range first last) = false) (after : first ≤ code)
    (before : code ≤ last) : hasCase unicode code = false := by
  rw [Member.isCased, Bool.or_eq_false_iff] at uncased
  cases unicode with
  | true => exact Text.Case.caseless_of_someChangesCase uncased.2 after before
  | false =>
      have apart := uncased.2
      simp only [Bool.false_eq_true, if_false, Bool.or_eq_false_iff, Bool.and_eq_false_iff,
        decide_eq_false_iff_not] at apart
      simp only [hasCase, Text.Case.isAsciiLetter, Bool.false_eq_true, if_false,
        Bool.or_eq_false_iff, Bool.and_eq_false_iff, decide_eq_false_iff_not]
      omega

/-! ## Members of sets -/

/-- Folding keeps the named classes: a letter and its other case are in the
same of them. -/
theorem Category.contains_fold (named : Category) (candidate : Nat) :
    named.contains unicode (fold unicode candidate) = named.contains unicode candidate := by
  unfold Category.contains
  refine congrArg (· != named.negated) ?_
  cases unicode with
  | true =>
      cases named.kind with
      | digit => exact Text.isDecimalDigit_foldLower candidate
      | space => exact Text.isBlank_foldLower candidate
      | word => exact Text.isWordCode_foldLower candidate
  | false =>
      rw [Bool.eq_iff_iff]
      cases named.kind <;>
        simp only [ClassKind.contains, fold, Text.Case.foldAscii, Text.isAsciiBlank,
          Text.Case.isAsciiLetter, Bool.false_eq_true, if_false, Bool.or_eq_true, Bool.and_eq_true,
          decide_eq_true_iff, beq_iff_eq] <;>
        split <;> omega

namespace Member

variable {member : Member}

/-- A member without a case admits a code point folded as it does unfolded. -/
theorem containsFolded_of_uncased (uncased : member.isCased unicode = false) (candidate : Nat) :
    member.containsFolded unicode (fold unicode candidate) = member.contains unicode candidate := by
  cases member with
  | code only =>
      rw [isCased, Bool.or_eq_false_iff, decide_eq_false_iff_not] at uncased
      have basic : only < beyondBasic := Nat.lt_of_not_le uncased.1
      rw [containsFolded, contains, if_pos basic, fold_of_caseless uncased.2,
        sameLetter_of_caseless uncased.2, Bool.eq_iff_iff, List.contains_iff_mem,
        List.mem_singleton, beq_iff_eq]
      exact fold_eq_iff uncased.2 candidate
  | range first last =>
      have caseless : forall other, first ≤ other -> other ≤ last -> hasCase unicode other = false :=
        fun _ => caseless_of_isCased_range uncased
      have parts := Bool.or_eq_false_iff.mp uncased
      have notBeyond : ¬ beyondBasic ≤ last := of_decide_eq_false parts.1
      rw [Bool.eq_iff_iff]
      simp only [containsFolded, contains, notBeyond, decide_false, Bool.false_and, Bool.or_false,
        List.any_eq_true, Bool.and_eq_true, decide_eq_true_iff]
      constructor
      · rintro ⟨letter, counts, other, folds, _, after, before⟩
        have isCaseless := caseless other after before
        rw [← fold_of_mem_foldsTo folds, fold_of_caseless isCaseless,
          mem_sameLetter_iff isCaseless] at counts
        have same := (fold_eq_iff isCaseless candidate).mp counts.symm
        exact same ▸ ⟨after, before⟩
      · rintro ⟨after, before⟩
        have isCaseless := caseless candidate after before
        refine ⟨candidate, ?_, candidate, mem_foldsTo_of_caseless isCaseless, ?_, after, before⟩
        · rw [fold_of_caseless isCaseless]
          exact (mem_sameLetter_iff isCaseless candidate).mpr rfl
        · omega
  | category named => exact named.contains_fold candidate

/-- Whether the member admits the code point, under these flags.  Unlike in a
set the other members have no say in it. -/
def admits (flags : Flags) (candidate : Nat) (member : Member) : Bool :=
  if flags.ignoreCase then member.containsFolded flags.unicode (fold flags.unicode candidate)
  else member.contains flags.unicode candidate

end Member

/-- A set admits what its members admit one by one, although it is folded as a
whole. -/
theorem membersAdmit_eq_any (flags : Flags) (members : List Member) (candidate : Nat) :
    membersAdmit flags members candidate = members.any (Member.admits flags candidate) := by
  unfold membersAdmit Member.admits
  cases flags.ignoreCase with
  | false => rfl
  | true =>
      rw [Bool.true_and]
      split
      · rfl
      · rename_i uncased
        have each : forall member, member ∈ members -> member.isCased flags.unicode = false := by
          intro member among
          rw [← Bool.not_eq_true]
          exact fun cased => uncased (List.any_eq_true.mpr ⟨member, among, cased⟩)
        rw [Bool.eq_iff_iff, List.any_eq_true, List.any_eq_true]
        refine exists_congr fun member => and_congr_right fun among => ?_
        rw [if_pos rfl, Member.containsFolded_of_uncased (each member among)]

/-- Whether the code point may as well be listed in a set: beyond the basic
plane it must fold to itself, if case is ignored. -/
def isListable (flags : Flags) (code : Nat) : Bool :=
  !flags.ignoreCase || code < beyondBasic || fold flags.unicode code == code

theorem codeAdmits_eq_admits {flags : Flags} (listable : isListable flags code = true)
    (candidate : Nat) :
    codeAdmits flags code candidate = (Member.code code).admits flags candidate := by
  unfold codeAdmits Member.admits
  cases ignoring : flags.ignoreCase with
  | false => rfl
  | true =>
      rw [Bool.true_and, if_pos rfl]
      cases cased : hasCase flags.unicode code with
      | false =>
          by_cases basic : code < beyondBasic
          · have uncased : (Member.code code).isCased flags.unicode = false := by
              simp [Member.isCased, cased, basic]
            rw [Member.containsFolded_of_uncased uncased]
            rfl
          · rw [Member.containsFolded, if_neg basic, if_neg Bool.false_ne_true, Bool.eq_iff_iff,
              beq_iff_eq, beq_iff_eq]
            exact (fold_eq_iff cased candidate).symm
      | true =>
          rw [if_pos rfl, Member.containsFolded]
          split
          · rfl
          · rename_i beyond
            have own : fold flags.unicode code = code := by
              simpa [isListable, ignoring, beyond] using listable
            have alone : sameLetter flags.unicode code = [code] := by
              unfold sameLetter
              split
              · exact congrArg (code :: ·)
                  (Text.Case.siblings_of_beyond (Nat.le_of_not_lt beyond))
              · rfl
            rw [own, alone, Bool.eq_iff_iff, List.contains_iff_mem, List.mem_singleton, beq_iff_eq]

end Regex
end Stencil

import Stencil.Proofs.Running.Folding
import Stencil.Regex.Search

namespace Stencil
namespace Regex

/-!
What a search passes over without a try.  Where an expression begins with a
set, every match begins with a character that the set admits where it stands.
The look that a search takes beforehand reads the classes in the set as the
whole expression does.  If that is how they are read where the set stands, the
look lets every such character pass and no match is missed.  Otherwise matches
may be missed: in a text that is one letter beyond ASCII a search does not
find what is no word in ASCII, if only the set and not the whole expression
has its classes read in that way.

The main statements are `isCandid_of_agrees` and, for expressions in which the
classes are nowhere made ASCII's, `isCandid_of_keepsUnicode`; for two
expressions that match at the same places, `PassesAlike.tries_eq`.
-/

/-- Whether a match may begin with the character.  Where the expression begins
with no set, nothing is said. -/
def begins (regex : Regex) (character : Char) : Bool :=
  match regex.body.firstSet? regex.flags with
  | some first => first.admits character.toNat
  | none => true

/-- The look lets every character pass that a match may begin with.  A search
then misses nothing by it. -/
def IsCandid (regex : Regex) : Prop :=
  forall character, regex.begins character = true -> regex.tries (some character) = true

/-- The looks of two expressions do not differ about any character with which
both may begin. -/
def PassesAlike (one other : Regex) : Prop :=
  forall character, one.begins character = true -> other.begins character = true ->
    one.tries (some character) = other.tries (some character)

variable {regex one other : Regex} {text : Array Char} {start : Nat} {accepts : Nat -> Bool}

/-- Whatever way an expression takes that begins with a set, it begins with an
admitted character. -/
theorem Expr.exists_admitted_of_run {expr : Expr} {flags : Flags} {first : FirstSet}
    (leads : expr.firstSet? flags = some first) {cursor : Cursor} {next : Cursor -> Option Cursor}
    {answer : Cursor} (ran : run text expr flags cursor next = some answer) :
    ∃ character, text[cursor.position]? = some character ∧ first.admits character.toNat = true := by
  induction expr generalizing flags cursor next with
  | set negated members =>
      cases leads
      simp only [run, Step.consume] at ran
      split at ran
      · rename_i character present
        split at ran
        · rename_i admitted
          exact ⟨character, present, admitted⟩
        · cases ran
      · cases ran
  | seq front back frontHypothesis _ => exact frontHypothesis leads ran
  | capture group body bodyHypothesis =>
      have inside : ∃ character, text[(cursor.openGroup group).position]? = some character ∧
          first.admits character.toNat = true := bodyHypothesis leads ran
      exact inside
  | flagged change body bodyHypothesis => exact bodyHypothesis leads ran
  | _ => cases leads

theorem begins_of_matchAt? {character : Char} (present : text[start]? = some character)
    (matched : (regex.matchAt? text start accepts).isSome = true) : regex.begins character = true := by
  rw [matchAt?, Option.isSome_map] at matched
  obtain ⟨answer, ran⟩ := Option.isSome_iff_exists.mp matched
  unfold begins
  split
  · rename_i first leads
    obtain ⟨other, otherPresent, admitted⟩ := Expr.exists_admitted_of_run leads ran
    cases present.symm.trans otherPresent
    exact admitted
  · rfl

/-- Where an expression matches at the end of the text, it begins with no
set. -/
theorem tries_of_matchAt?_end (absent : text[start]? = none)
    (matched : (regex.matchAt? text start accepts).isSome = true) : regex.tries none = true := by
  rw [matchAt?, Option.isSome_map] at matched
  obtain ⟨answer, ran⟩ := Option.isSome_iff_exists.mp matched
  unfold tries
  split
  · rename_i first leads
    obtain ⟨other, present, _⟩ := Expr.exists_admitted_of_run leads ran
    cases absent.symm.trans present
  · rfl

/-- A search tries a candid expression wherever it matches, at the end of the
text too. -/
theorem IsCandid.tries_of_matchAt? (candid : regex.IsCandid)
    (matched : (regex.matchAt? text start accepts).isSome = true) :
    regex.tries text[start]? = true := by
  cases present : text[start]? with
  | none => exact tries_of_matchAt?_end present matched
  | some character => exact candid character (begins_of_matchAt? present matched)

/-- A set that a search looks at admits what passes the look, if this reads
the classes as the set does: where case is ignored, nothing in the set has
one. -/
theorem FirstSet.admits_eq_passes {first : FirstSet} (lookedAt : first.isLookedAt = true)
    (code : Nat) : first.admits code = first.passes first.flags.unicode code := by
  rw [admits, passes, membersAdmit_eq_any]
  refine congrArg (· != first.negated) (Bool.eq_iff_iff.mpr ?_)
  rw [List.any_eq_true, List.any_eq_true]
  refine exists_congr fun member => and_congr_right fun among => Bool.eq_iff_iff.mp ?_
  unfold isLookedAt at lookedAt
  cases ignoring : first.flags.ignoreCase with
  | false => exact if_neg (ignoring ▸ Bool.false_ne_true)
  | true =>
      rw [ignoring, Bool.not_true, Bool.false_or] at lookedAt
      have each := List.all_eq_true.mp lookedAt member among
      cases member with
      | code only =>
          have uncased : hasCase first.flags.unicode only = false := (Bool.not_eq_true' _).mp each
          have listable : isListable first.flags only = true := by
            rw [isListable, fold_of_caseless uncased, BEq.rfl, Bool.or_true]
          rw [← codeAdmits_eq_admits listable, codeAdmits, uncased, Bool.and_false]
          rfl
      | range low high =>
          exact (if_pos ignoring).trans
            (Member.containsFolded_of_uncased ((Bool.not_eq_true' _).mp each) code)
      | category named => exact (if_pos ignoring).trans (Member.containsFolded_of_uncased rfl code)

/-- An expression is candid if the classes in its first set are read as in the
whole expression.  That includes every expression that begins with no set. -/
theorem isCandid_of_agrees (agrees : forall first, regex.body.firstSet? regex.flags = some first ->
    first.flags.unicode = regex.flags.unicode) : regex.IsCandid := by
  intro character begins
  cases leads : regex.body.firstSet? regex.flags with
  | none => rw [tries, leads]
  | some first =>
      rw [Regex.begins, leads] at begins
      rw [tries, leads, ← agrees first leads]
      dsimp only
      cases lookedAt : first.isLookedAt with
      | false => rfl
      | true => exact (first.admits_eq_passes lookedAt _).symm.trans begins

theorem isCandid_of_firstSet?_eq_none (without : regex.body.firstSet? regex.flags = none) :
    regex.IsCandid :=
  isCandid_of_agrees fun _ leads => nomatch without.symm.trans leads

/-- Whether no group in the expression has the classes read as ASCII's.  This
can be seen from the expression alone. -/
def Expr.keepsUnicode : Expr -> Bool
  | .seq first second => first.keepsUnicode && second.keepsUnicode
  | .alt first second => first.keepsUnicode && second.keepsUnicode
  | .repeated _ _ _ body => body.keepsUnicode
  | .capture _ body => body.keepsUnicode
  | .flagged change body => !change.added.ascii && !change.removed.unicode && body.keepsUnicode
  | .atomic body => body.keepsUnicode
  | .look _ _ body => body.keepsUnicode
  | .conditional _ captured otherwise => captured.keepsUnicode && otherwise.keepsUnicode
  | _ => true

theorem FlagChange.apply_unicode {change : FlagChange} {flags : Flags}
    (added : change.added.ascii = false) (removed : change.removed.unicode = false)
    (unicode : flags.unicode = true) : (change.apply flags).unicode = true := by
  cases chosen : change.added.unicode <;>
    simp [apply, Flags.choosesClasses, Flags.union, Flags.without, added, removed, unicode, chosen]

/-- The classes are Unicode's in the first set if they are around the
expression and in all of it. -/
theorem Expr.unicode_of_firstSet? {expr : Expr} {flags : Flags} {first : FirstSet}
    (keeps : expr.keepsUnicode = true) (unicode : flags.unicode = true)
    (leads : expr.firstSet? flags = some first) : first.flags.unicode = true := by
  induction expr generalizing flags with
  | set negated members =>
      cases leads
      exact unicode
  | seq front back frontHypothesis _ =>
      exact frontHypothesis (Bool.and_eq_true_iff.mp keeps).1 unicode leads
  | capture group body bodyHypothesis => exact bodyHypothesis keeps unicode leads
  | flagged change body bodyHypothesis =>
      rw [keepsUnicode, Bool.and_eq_true, Bool.and_eq_true, Bool.not_eq_true', Bool.not_eq_true']
        at keeps
      exact bodyHypothesis keeps.2 (FlagChange.apply_unicode keeps.1.1 keeps.1.2 unicode) leads
  | _ => cases leads

/-- An expression is candid if the classes are Unicode's everywhere in it, for
then the look reads them as the set does. -/
theorem isCandid_of_keepsUnicode (unicode : regex.flags.unicode = true)
    (keeps : regex.body.keepsUnicode = true) : regex.IsCandid :=
  isCandid_of_agrees fun _ leads =>
    (Expr.unicode_of_firstSet? keeps unicode leads).trans unicode.symm

theorem IsCandid.passesAlike (oneCandid : one.IsCandid) (otherCandid : other.IsCandid) :
    one.PassesAlike other :=
  fun character oneBegins otherBegins =>
    (oneCandid character oneBegins).trans (otherCandid character otherBegins).symm

/-- Looks at the same set do not differ if both expressions have the classes
read alike as a whole. -/
theorem passesAlike_of_firstSet?_eq
    (same : one.body.firstSet? one.flags = other.body.firstSet? other.flags)
    (classes : one.flags.unicode = other.flags.unicode) : one.PassesAlike other := by
  intro character _ _
  rw [tries, tries, same, classes]

/-- Where both expressions match, a search tries both or none.  Elsewhere it
makes no difference what it tries. -/
theorem PassesAlike.tries_eq (alike : one.PassesAlike other)
    (oneMatches : (one.matchAt? text start accepts).isSome = true)
    (otherMatches : (other.matchAt? text start accepts).isSome = true) :
    one.tries text[start]? = other.tries text[start]? := by
  cases present : text[start]? with
  | none =>
      rw [tries_of_matchAt?_end present oneMatches, tries_of_matchAt?_end present otherMatches]
  | some character =>
      exact alike character (begins_of_matchAt? present oneMatches)
        (begins_of_matchAt? present otherMatches)

/-- What is read off the matches at a place can be read off what a search
finds there. -/
theorem PassesAlike.map_tryAt? {Key : Type} {key : Match -> Key} (alike : one.PassesAlike other)
    (same : (one.matchAt? text start accepts).map key = (other.matchAt? text start accepts).map key) :
    (one.tryAt? text start accepts).map key = (other.tryAt? text start accepts).map key := by
  have matchedAlike := congrArg Option.isSome same
  rw [Option.isSome_map, Option.isSome_map] at matchedAlike
  unfold tryAt?
  rw [apply_ite (Option.map key), apply_ite (Option.map key), same, Option.map_none]
  cases matched : (other.matchAt? text start accepts).isSome with
  | true => rw [alike.tries_eq (matchedAlike.trans matched) matched]
  | false =>
      rw [Option.isNone_iff_eq_none.mp (Option.isSome_eq_false_iff.mp matched), Option.map_none, ite_self,
        ite_self]

end Regex
end Stencil

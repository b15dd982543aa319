import Stencil.Pattern.Basic
import Stencil.Proofs.Isolation.Rewriting
import Stencil.Proofs.Matcher.Completeness

namespace Stencil

/-!
What it means that no matcher is made.  Most failures say what is wrong with
the expression for a placeholder, or that there is none, and only these are to
be expected.  Others escape: a limit that an expression goes beyond is not
taken for a mistake in it, and where the scan for groups misreads a comment it
may find no end of what it takes for one, or give what goes beyond a limit.
Nothing else escapes, so expressions without a `#` that go beyond no limit
fail as expected.

The main statement is `Pattern.isOfCompilation_or_escapes`.
-/

open Regex

/-- Whether the failure says what is wrong with the expressions for the
placeholders. -/
def Failure.isOfCompilation : Failure -> Bool
  | .expression _ _ => true
  | .dependentExpression _ _ => true
  | .capturingExpression _ => true
  | .assembled _ => true
  | .missingBinding _ => true
  | _ => false

/-- The failure comes of isolating the expression, but does not say what is
wrong with it.  Either a limit has been met in reading it, or in reading what
it is rewritten to, or the scan has not found the end of something. -/
inductive Isolation.Escapes (expression : String) : Failure -> Prop where
  /-- The expression itself goes beyond a limit. -/
  | refused {limit : Limit} (refuses : Regex.compile expression = .error (.refused limit)) :
      Escapes expression (.refused limit)
  /-- The scan misreads a comment, and what it gives goes beyond a limit. -/
  | misread {original : Regex} {isolated : String} {limit : Limit}
      (compiled : Regex.compile expression = .ok original)
      (illegible : Reading.initial.isLegible original.flags.verbose
        (Token.split expression.toList).1 = false)
      (rewriting : Isolation.rewrite? original.flags.verbose expression = some isolated)
      (refuses : Regex.compile isolated = .error (.refused limit)) :
      Escapes expression (.refused limit)
  /-- The scan misreads a comment, and finds no end of what it takes for one or for a name. -/
  | unclosed {original : Regex} (compiled : Regex.compile expression = .ok original)
      (illegible : Reading.initial.isLegible original.flags.verbose
        (Token.split expression.toList).1 = false)
      (rewriting : Isolation.rewrite? original.flags.verbose expression = none) :
      Escapes expression .unclosed

/-- A failure to read an expression says what is wrong with it unless a limit
has been met. -/
theorem isOfCompilation_or_refused {expression : String} {invalid : Diagnosis -> Failure}
    {failure : Failure} (expected : forall diagnosis, (invalid diagnosis).isOfCompilation = true)
    (failed : (Regex.compile expression).mapError (Failure.ofRegexError invalid) = .error failure) :
    failure.isOfCompilation = true ∨
      ∃ limit, Regex.compile expression = .error (.refused limit) ∧ failure = .refused limit := by
  rcases Except.mapError_eq_error_iff.mp failed with ⟨diagnosis | limit, refuses, rfl⟩
  · exact .inl (expected diagnosis)
  · exact .inr ⟨limit, refuses, rfl⟩

/-- Isolating fails in no other way: the failure says what is wrong with the
expression, or it is one of those that escape. -/
theorem isolate_eq_error {name expression : String} {failure : Failure}
    (failed : isolate name expression = .error failure) :
    failure.isOfCompilation = true ∨ Isolation.Escapes expression failure := by
  rcases Except.bind_eq_error_iff.mp failed with unread | ⟨original, compiled, unisolated⟩
  · rcases isOfCompilation_or_refused (fun _ => rfl) unread with expected | ⟨limit, refuses, rfl⟩
    · exact .inl expected
    · exact .inr (.refused refuses)
  have compiled := Except.mapError_eq_ok_iff.mp compiled
  rcases rewriting : Isolation.rewrite? original.flags.verbose expression with _ | isolated
  · rw [rewriting] at unisolated
    cases unisolated
    refine .inr (.unclosed compiled (Bool.eq_false_iff.mpr fun legible => ?_) rewriting)
    rcases exists_rewrite? compiled legible with ⟨isolated, given, _⟩
    cases rewriting.symm.trans given
  rw [rewriting] at unisolated
  rcases Except.bind_eq_error_iff.mp unisolated with impossible | ⟨_, same, unfit⟩
  · cases impossible
  cases same
  rcases Except.bind_eq_error_iff.mp unfit with unread | ⟨regex, _, captures⟩
  · rcases isOfCompilation_or_refused (fun _ => rfl) unread with expected | ⟨limit, refuses, rfl⟩
    · exact .inl expected
    refine .inr (.misread compiled (Bool.eq_false_iff.mpr fun legible => ?_) rewriting refuses)
    rcases exists_rewrite? compiled legible with ⟨_, given, within⟩
    cases rewriting.symm.trans given
    exact within limit refuses
  · split at captures
    · cases captures
    · cases captures
      exact .inl rfl

/-- In each of these ways it does fail, and the failure does not say what is
wrong with the expression. -/
theorem Isolation.Escapes.isolate_eq {expression : String} {failure : Failure}
    (escapes : Isolation.Escapes expression failure) (name : String) :
    isolate name expression = .error failure ∧ failure.isOfCompilation = false := by
  unfold isolate
  cases escapes with
  | refused refuses =>
      rw [refuses]
      exact ⟨rfl, rfl⟩
  | misread compiled _ rewriting refuses =>
      rw [compiled]
      dsimp only [Except.mapError_ok, bind, Except.bind]
      rw [rewriting]
      dsimp only [pure, Except.pure]
      rw [refuses]
      exact ⟨rfl, rfl⟩
  | unclosed compiled _ rewriting =>
      rw [compiled]
      dsimp only [Except.mapError_ok, bind, Except.bind]
      rw [rewriting]
      exact ⟨rfl, rfl⟩

namespace Matcher

variable {rules : String -> Option String} {fragments : List Fragment} {failure : Failure}

/-- If the text cannot be assembled, this is for one of the placeholders, and
the failure is that of isolating its expression. -/
theorem assembledText_eq_error {known : List (String × String)} {count : Nat}
    (isKnown : IsKnown rules known)
    (failed : assembledText rules known count fragments = .error failure) :
    ∃ name, name ∈ Fragment.names fragments ∧ isolatedRule rules name = .error failure := by
  induction fragments generalizing known count with
  | nil => cases failed
  | cons fragment rest inductiveHypothesis =>
      cases fragment with
      | literal literal =>
          rcases Except.bind_eq_error_iff.mp failed with later | ⟨_, _, impossible⟩
          · exact inductiveHypothesis isKnown later
          · cases impossible
      | placeholder name =>
          rcases Except.bind_eq_error_iff.mp failed with own | ⟨isolated, own, failedLater⟩
          · rw [isKnown.isolatedOnce_eq] at own
            exact ⟨name, List.mem_cons_self, own⟩
          rw [isKnown.isolatedOnce_eq] at own
          rcases Except.bind_eq_error_iff.mp failedLater with later | ⟨_, _, impossible⟩
          · rcases inductiveHypothesis (isKnown.cons own) later with ⟨other, member, failed⟩
            exact ⟨other, List.mem_cons_of_mem _ member, failed⟩
          · cases impossible

theorem isolatedRule_eq_error {name : String} (failed : isolatedRule rules name = .error failure) :
    failure.isOfCompilation = true ∨
      ∃ expression, rules name = some expression ∧ Isolation.Escapes expression failure := by
  unfold isolatedRule at failed
  split at failed
  · cases failed
    exact .inl rfl
  · rename_i expression given
    split at failed
    · cases failed
      exact .inl rfl
    · exact (isolate_eq_error failed).imp_right fun escapes => ⟨expression, given, escapes⟩

def Escapes (rules : String -> Option String) (fragments : List Fragment) (failure : Failure) : Prop :=
  ∃ name expression, name ∈ Fragment.names fragments ∧ rules name = some expression ∧
    Isolation.Escapes expression failure

/-- Nothing else than the expressions for the placeholders keeps a matcher
from being made. -/
theorem ofFragments_eq_error (failed : ofFragments rules fragments = .error failure) :
    failure.isOfCompilation = true ∨ Escapes rules fragments failure := by
  rcases assembled : assembledText rules [] 0 fragments with other | text
  · unfold ofFragments at failed
    rw [assembled] at failed
    cases failed
    rcases assembledText_eq_error (isKnown_nil rules) assembled with ⟨name, member, failed⟩
    exact (isolatedRule_eq_error failed).imp_right fun ⟨expression, given, escapes⟩ =>
      ⟨name, expression, member, given, escapes⟩
  · have ruled := (assembledText_eq_ok (isKnown_nil rules) assembled).1
    rcases ofFragments_of_ruled ruled with ⟨_, matcher, made⟩ | ⟨_, place, misplaced⟩
    · cases made.symm.trans failed
    · cases misplaced.symm.trans failed
      exact .inl rfl

/-- Expressions that go beyond no limit and hold no `#` only fail as one may
expect. -/
theorem isOfCompilation_of_noHash
    (within : forall name expression, name ∈ Fragment.names fragments ->
      rules name = some expression -> '#' ∉ expression.toList ∧
        forall limit, Regex.compile expression ≠ .error (.refused limit))
    (failed : ofFragments rules fragments = .error failure) : failure.isOfCompilation = true := by
  rcases ofFragments_eq_error failed with
    expected | ⟨name, expression, member, given, escapes⟩
  · exact expected
  rcases within name expression member given with ⟨noHash, unrefused⟩
  have legible : forall verbose, Reading.initial.isLegible verbose
      (Token.split expression.toList).1 = true := fun verbose =>
    Reading.isLegible_of_no_hash rfl fun token member => Token.is_of_not_mem noHash member
  cases escapes with
  | refused refuses => exact absurd refuses (unrefused _)
  | misread _ illegible => exact absurd ((legible _).symm.trans illegible) nofun
  | unclosed _ illegible => exact absurd ((legible _).symm.trans illegible) nofun

end Matcher

namespace Pattern

/-- If no matcher is made, the failure says what is wrong with the expressions
for the placeholders, or it escapes from one of them.  The same failure is
what comes of matching and of searching. -/
theorem isOfCompilation_or_escapes (rules : String -> Option String) (fragments : List Fragment)
    (pattern : Pattern) (text : String) (failure : Failure) :
    (Matcher.ofFragments rules fragments = .error failure ->
      failure.isOfCompilation = true ∨ Matcher.Escapes rules fragments failure) ∧
    (pattern.compile = .error failure ->
      (failure.isOfCompilation = true ∨
        Matcher.Escapes pattern.rules.expression? pattern.fragments failure) ∧
      pattern.matchWhole text = .error failure ∧ pattern.findAll text = .error failure) := by
  refine ⟨Matcher.ofFragments_eq_error, fun failed => ⟨?_, ?_, ?_⟩⟩
  · unfold compile at failed
    split at failed
    · cases failed
    · exact Matcher.ofFragments_eq_error failed
  · unfold matchWhole
    rw [failed]
    rfl
  · unfold findAll
    rw [failed]
    rfl

/-- The rules and the pattern with this expression for the only
placeholder. -/
def ofExpression (expression : String) : Pattern :=
  .ofTemplate "${x}" ⟨[("", "x")], ""⟩ fun _ => some expression

theorem isOfCompilation_or_escapes_repeatCountExample :
    (ofExpression "a{4294967295}").compile = .error (.refused .repeatCount) ∧
      (Failure.refused .repeatCount).isOfCompilation = false ∧
      Matcher.Escapes (ofExpression "a{4294967295}").rules.expression?
        (ofExpression "a{4294967295}").fragments (.refused .repeatCount) ∧
      (ofExpression "a{4294967295}").matchWhole "a" = .error (.refused .repeatCount) := by
  have failed : (ofExpression "a{4294967295}").compile = .error (.refused .repeatCount) := by
    decide +kernel
  have unexpected : (Failure.refused .repeatCount).isOfCompilation = false := rfl
  rcases (isOfCompilation_or_escapes (fun _ => none) [] _ "a" _).2 failed with
    ⟨expected | escapes, matching, _⟩
  · cases unexpected.symm.trans expected
  · exact ⟨failed, unexpected, escapes, matching⟩

/-- Failures that escape: of an expression that counts too far, of one that
chooses two kinds of character classes, of one with a code point that is no
number, and of two with comments in which the scan sees the name of a
group. -/
theorem ofFragments_escapes :
    ([("a{4294967295}", Failure.refused .repeatCount), ("(?a)(?u)a", .refused .bothClasses),
      ("\\U80000000", .refused .codePoint), ("(?x:#(?P<\na)", .unclosed),
      ("(?x:#(?P<\n(?#>\na{4294967295})\n)", .refused .repeatCount)].all
      fun (expression, failure) => !failure.isOfCompilation &&
        Matcher.ofFragments (fun _ => some expression) (Fragment.alternating ["", "x", ""]) ==
          .error failure) = true := by
  decide +kernel

end Pattern
end Stencil

import Stencil.Isolation.Groups
import Stencil.Regex.Token

namespace Stencil
namespace Isolation

/-!
The scan for groups, token by token.  It goes by characters, but most of a
text it copies in whole tokens: between tokens it is in some region, and the
token tells the next one.  The exceptions are the brackets that it looks ahead
after, and an escape that ends a comment, where the scan does not see a token.
After a bracket that begins a class, up to three characters are copied at
once; after a parenthesis, the next characters tell whether a group is opened
that captures.
-/

open Regex (Token)

variable {verbose : Bool} {region : Region} {rest : List Char}

/-- The region after a token that is copied.  Tokens that begin a class or a
group are not copied as such. -/
def Region.after (verbose : Bool) (region : Region) (token : Token) : Region :=
  match region with
  | .outside => if verbose && token.is '#' then .lineComment else .outside
  | .inClass => if token.is ']' then .outside else .inClass
  | .lineComment => if token.is '\n' then .outside else .lineComment
  | .comment => if token.is ')' then .outside else .comment
  | .groupName => .groupName

/-- Whether the scan copies the token and sees it as one.  In a comment it
takes an escaped character for two, and so may see the end where there is
none. -/
def Region.copies (region : Region) (token : Token) : Bool :=
  match region with
  | .outside => !(token.is '(' || token.is '[')
  | .inClass => true
  | .lineComment => !(token.escaped && token.character == '\n')
  | .comment => !(token.escaped && token.character == ')')
  | .groupName => false

-- each pattern of the scan has its equation, whichever patterns come before it
attribute [local simp] withoutCapturesFrom?

theorem scan_outside {character : Char} (notBackslash : character ≠ '\\')
    (notParenthesis : character ≠ '(') (notBracket : character ≠ '[') :
    withoutCapturesFrom? verbose .outside (character :: rest) =
      (withoutCapturesFrom? verbose
        (if verbose && character == '#' then .lineComment else .outside) rest).map
        (character :: ·) := by
  simp [notBackslash, notParenthesis, notBracket]

theorem scan_inClass {character : Char} (notBackslash : character ≠ '\\') :
    withoutCapturesFrom? verbose .inClass (character :: rest) =
      (withoutCapturesFrom? verbose (if character = ']' then .outside else .inClass) rest).map
        (character :: ·) := by
  simp [notBackslash]

/-- A bracket that is not followed by `^` or `]` begins a class. -/
theorem scan_bracket (notCaret : rest.head? ≠ some '^') (notBracket : rest.head? ≠ some ']') :
    withoutCapturesFrom? verbose .outside ('[' :: rest) =
      (withoutCapturesFrom? verbose .inClass rest).map ('[' :: ·) := by
  have noCaret : forall others, rest ≠ '^' :: others := by
    rintro _ rfl
    exact notCaret rfl
  have noBracket : forall others, rest ≠ ']' :: others := by
    rintro _ rfl
    exact notBracket rfl
  simp [noCaret, noBracket]

theorem scan_caret (notBracket : rest.head? ≠ some ']') :
    withoutCapturesFrom? verbose .outside ('[' :: '^' :: rest) =
      (withoutCapturesFrom? verbose .inClass rest).map (['[', '^'] ++ ·) := by
  have noBracket : forall others, rest ≠ ']' :: others := by
    rintro _ rfl
    exact notBracket rfl
  simp [noBracket]

/-- A parenthesis that is not followed by a question mark opens a group that
captures. -/
theorem scan_parenthesis (notQuestion : rest.head? ≠ some '?') :
    withoutCapturesFrom? verbose .outside ('(' :: rest) =
      (withoutCapturesFrom? verbose .outside rest).map (['(', '?', ':'] ++ ·) := by
  have noQuestion : forall others, rest ≠ '?' :: others := by
    rintro _ rfl
    exact notQuestion rfl
  simp [noQuestion]

/-- An extension is copied, if it is no comment and names no group. -/
theorem scan_extension (notComment : rest.head? ≠ some '#') (notName : ¬ ['P', '<'] <+: rest) :
    withoutCapturesFrom? verbose .outside ('(' :: '?' :: rest) =
      (withoutCapturesFrom? verbose .outside rest).map (['(', '?'] ++ ·) := by
  have noName : forall others, rest ≠ 'P' :: '<' :: others := by
    rintro others rfl
    exact notName ⟨others, rfl⟩
  have noComment : forall others, rest ≠ '#' :: others := by
    rintro _ rfl
    exact notComment rfl
  simp [noName, noComment]

/-- The name of a group is dropped. -/
theorem scan_groupName {name : List Char} (unclosed : '>' ∉ name) :
    withoutCapturesFrom? verbose .groupName (name ++ '>' :: rest) =
      withoutCapturesFrom? verbose .outside rest := by
  induction name with
  | nil => rfl
  | cons character others inductiveHypothesis =>
      rw [List.mem_cons, not_or] at unclosed
      rw [List.cons_append, withoutCapturesFrom?, if_neg (Ne.symm unclosed.1),
        inductiveHypothesis unclosed.2]

theorem scan_lineComment (character : Char) :
    withoutCapturesFrom? verbose .lineComment (character :: rest) =
      (withoutCapturesFrom? verbose (if character = '\n' then .outside else .lineComment) rest).map
        (character :: ·) :=
  rfl

theorem scan_comment (character : Char) :
    withoutCapturesFrom? verbose .comment (character :: rest) =
      (withoutCapturesFrom? verbose (if character = ')' then .outside else .comment) rest).map
        (character :: ·) :=
  rfl

/-- What ends comments and groups is copied wherever the scan is when an
expression ends. -/
theorem scan_endings {text : List Char}
    (ends : forall character, character ∈ text -> character ∈ [')', '\n']) :
    withoutCapturesFrom? verbose .outside text = some text ∧
      withoutCapturesFrom? verbose .lineComment text = some text := by
  induction text with
  | nil => exact ⟨rfl, rfl⟩
  | cons character rest inductiveHypothesis =>
      rcases inductiveHypothesis fun other member => ends other (List.mem_cons_of_mem _ member) with
        ⟨outside, inComment⟩
      have other : character ≠ '\\' ∧ character ≠ '(' ∧ character ≠ '[' ∧
          (verbose && character == '#') = false := by
        have member := ends character List.mem_cons_self
        simp only [List.mem_cons, List.not_mem_nil, or_false] at member
        rcases member with rfl | rfl
        · exact ⟨by decide, by decide, by decide, Bool.and_false _⟩
        · exact ⟨by decide, by decide, by decide, Bool.and_false _⟩
      constructor
      · rw [scan_outside other.1 other.2.1 other.2.2.1, other.2.2.2, if_neg Bool.false_ne_true,
          outside]
        rfl
      · rw [scan_lineComment]
        split
        · rw [outside]
          rfl
        · rw [inComment]
          rfl

/-- A token that the scan sees is copied, and the scan goes on in the region
after it. -/
theorem scan_copied {token : Token} (proper : token.escaped = false -> token.character ≠ '\\')
    (copies : region.copies token = true) :
    withoutCapturesFrom? verbose region (token.characters ++ rest) =
      (withoutCapturesFrom? verbose (region.after verbose token) rest).map
        (token.characters ++ ·) := by
  rcases token with ⟨escaped, character⟩
  cases escaped with
  | true =>
      have notIs (symbol : Char) : Token.is ⟨true, character⟩ symbol = false := rfl
      have written : Token.characters ⟨true, character⟩ = ['\\', character] := rfl
      cases region with
      | outside =>
          simp [written, Region.after, notIs]
      | inClass =>
          simp [written, Region.after, notIs]
      | lineComment =>
          have stays : character ≠ '\n' := by
            simpa [Region.copies] using copies
          rw [written, List.cons_append, List.cons_append, List.nil_append, scan_lineComment,
            if_neg (by decide), scan_lineComment, if_neg stays, Option.map_map]
          rfl
      | comment =>
          have stays : character ≠ ')' := by
            simpa [Region.copies] using copies
          rw [written, List.cons_append, List.cons_append, List.nil_append, scan_comment,
            if_neg (by decide), scan_comment, if_neg stays, Option.map_map]
          rfl
      | groupName => cases copies
  | false =>
      have notBackslash : character ≠ '\\' := proper rfl
      have is (symbol : Char) : Token.is ⟨false, character⟩ symbol = (character == symbol) := rfl
      have written : Token.characters ⟨false, character⟩ = [character] := rfl
      rw [written, List.cons_append, List.nil_append]
      cases region with
      | outside =>
          simp only [Region.copies, is, Bool.not_eq_true', Bool.or_eq_false_iff,
            beq_eq_false_iff_ne] at copies
          rw [scan_outside notBackslash copies.1 copies.2]
          rfl
      | inClass =>
          simp only [Region.after, is, beq_iff_eq]
          exact scan_inClass notBackslash
      | lineComment =>
          simp only [Region.after, is, beq_iff_eq]
          exact scan_lineComment character
      | comment =>
          simp only [Region.after, is, beq_iff_eq]
          exact scan_comment character
      | groupName => cases copies

end Isolation
end Stencil

import Mathlib.Data.List.Induction
import Stencil.Proofs.Template.Grammar

namespace Stencil

/-!
Where the reading of a template stops.  The scanner goes from one character to
the next and never back, so what it says of a text it says of every text that
begins alike: whatever it has taken can still be completed to a template, and
whatever it refuses is refused however the text goes on.  Hence the place of a
problem is the first one at which the text is beyond repair; or, if the text
merely ends too early, the place of the symbol before which it would have been
a template.

The main statement is `Template.pointsAt_of_parse_eq_error`.
-/

namespace Template

variable {text front back : List Char} {error : SyntaxError}

def IsAccepted (text : List Char) : Prop :=
  ∃ template, parse (String.ofList text) = .ok template

/-- Some text that begins with these characters can be read, so there is
nothing wrong with them yet. -/
def IsViable (text : List Char) : Prop :=
  ∃ longer, text <+: longer ∧ IsAccepted longer

/-- No text that begins with these characters can be read, and the error is
always the same.  So it is these characters that are wrong. -/
def IsDoomed (text : List Char) (error : SyntaxError) : Prop :=
  forall longer, text <+: longer -> parse (String.ofList longer) = .error error

/-- What the offset of a problem says about the text: up to where nothing is
wrong with it, and from where on nothing can be mended. -/
def PointsAt (text : List Char) (offset : Nat) : Problem -> Prop
  | .wantedOpening found =>
      text[offset]? = some found ∧ IsViable (text.take offset) ∧
        IsDoomed (text.take (offset + 1)) ⟨offset, .wantedOpening found⟩
  | .badNameCharacter found =>
      text[offset]? = some found ∧ IsViable (text.take offset) ∧
        IsDoomed (text.take (offset + 1)) ⟨offset, .badNameCharacter found⟩
  | .emptyPlaceholder =>
      (text.drop offset).take 3 = ['$', '{', '}'] ∧ IsViable (text.take (offset + 2)) ∧
        IsDoomed (text.take (offset + 3)) ⟨offset, .emptyPlaceholder⟩
  | .incompleteEscape =>
      IsViable text ∧ text.drop offset = ['$'] ∧ IsAccepted (text.take offset)
  | .incompletePlaceholder =>
      IsViable text ∧
        (∃ name, text.drop offset = ['$', '{'] ++ name ∧
          forall character, character ∈ name -> isNameCharacter character = true) ∧
        IsAccepted (text.take offset)

namespace Scanner

variable {scanner next : Scanner} {offset : Nat} {character : Char}

/-! ## Texts taken in two parts -/

theorem run_append (scanner : Scanner) (offset : Nat) (front back : List Char) :
    scanner.run offset (front ++ back) =
      scanner.run offset front >>= fun next => next.run (offset + front.length) back := by
  induction front generalizing scanner offset with
  | nil => rfl
  | cons character rest inductiveHypothesis =>
      rw [List.cons_append, run, run]
      cases scanner.step offset character with
      | error fault => rfl
      | ok next =>
          dsimp only
          rw [inductiveHypothesis, List.length_cons, Nat.add_assoc, Nat.add_comm 1]

theorem run_append_of_ok (taken : scanner.run offset front = .ok next) (back : List Char) :
    scanner.run offset (front ++ back) = next.run (offset + front.length) back := by
  rw [run_append, taken]
  rfl

theorem run_singleton (scanner : Scanner) (offset : Nat) (character : Char) :
    scanner.run offset [character] = scanner.step offset character := by
  rw [run]
  cases scanner.step offset character <;> rfl

/-- What is refused is refused at one of its characters, everything before it
having been taken. -/
theorem run_eq_error (refused : scanner.run offset text = .error error) :
    ∃ front character back middle, text = front ++ character :: back ∧
      scanner.run offset front = .ok middle ∧
        middle.step (offset + front.length) character = .error error := by
  induction text generalizing scanner offset with
  | nil => cases refused
  | cons character rest inductiveHypothesis =>
      rw [run] at refused
      cases taken : scanner.step offset character with
      | error other =>
          rw [taken] at refused
          cases refused
          exact ⟨[], character, rest, scanner, rfl, rfl, taken⟩
      | ok middle =>
          rw [taken] at refused
          rcases inductiveHypothesis refused with ⟨front, found, back, last, rfl, ran, stops⟩
          refine ⟨character :: front, found, back, last, rfl, ?_, ?_⟩
          · rw [run, taken]
            exact ran
          · rw [List.length_cons, Nat.add_comm front.length, ← Nat.add_assoc]
            exact stops

/-- A character is refused after the opening symbol, or in the braces of a
placeholder. -/
theorem step_eq_error (refused : scanner.step offset character = .error error) :
    (∃ opened, scanner.mode = .symbol opened ∧ error = ⟨offset, .wantedOpening character⟩) ∨
    (∃ opened, scanner.mode = .name opened ∧ error = ⟨offset, .badNameCharacter character⟩) ∨
    ∃ opened, scanner.mode = .name opened ∧ scanner.name = [] ∧ character = closingBrace ∧
      error = ⟨opened, .emptyPlaceholder⟩ := by
  unfold step at refused
  split at refused
  · split at refused <;> cases refused
  · rename_i opened mode
    split at refused
    · cases refused
    split at refused
    · cases refused
    · cases refused
      exact .inl ⟨opened, mode, rfl⟩
  · rename_i opened mode
    split at refused
    · rename_i closes
      split at refused
      · rename_i empty
        cases refused
        exact .inr (.inr ⟨opened, mode, List.isEmpty_iff.mp empty, closes, rfl⟩)
      · cases refused
    split at refused
    · cases refused
    · cases refused
      exact .inr (.inl ⟨opened, mode, rfl⟩)

/-! ## Where constructs began -/

/-- The scanner has taken the text and, in the middle of a construct,
remembers where that began; up to there the text is a template.  Between two
constructs there is nothing to remember. -/
inductive Remembers : List Char -> Scanner -> Prop where
  | literal {text : List Char} {pieces : List (String × String)} {literal name : List Char} :
      Remembers text ⟨.literal, pieces, literal, name⟩
  | symbol {front : List Char} {pieces : List (String × String)} {literal name : List Char}
      (accepted : IsAccepted front) :
      Remembers (front ++ ['$']) ⟨.symbol front.length, pieces, literal, name⟩
  | name {front : List Char} {pieces : List (String × String)} {literal name : List Char}
      (accepted : IsAccepted front) :
      Remembers (front ++ (['$', '{'] ++ name.reverse)) ⟨.name front.length, pieces, literal, name⟩

theorem parse_of_run (taken : initial.run 0 text = .ok scanner) :
    parse (String.ofList text) = scanner.finish := by
  rw [parse, String.toList_ofList, taken]
  rfl

/-- Between two constructs the text may end, whatever has been read before. -/
theorem isAccepted_of_run (taken : initial.run 0 text = .ok scanner)
    (between : scanner.mode = .literal) : IsAccepted text := by
  refine ⟨⟨scanner.pieces.reverse, String.ofList scanner.literal.reverse⟩, ?_⟩
  rw [parse_of_run taken, finish, between]

/-- With every character that it takes the scanner remembers what it has to.
Nothing of a name is remembered before its first character. -/
theorem remembers_step (taken : initial.run 0 text = .ok scanner)
    (remembers : Remembers text scanner)
    (done : scanner.step text.length character = .ok next) :
    Remembers (text ++ [character]) next := by
  cases step_eq_ok_iff.mp done with
  | begins => exact .symbol (isAccepted_of_run taken rfl)
  | plain => exact .literal
  | doubled => exact .literal
  | @opens _ pieces literal name =>
      cases (run_eq_ok isSound_initial taken).1.between nofun
      cases remembers with
      | @symbol front _ _ _ accepted =>
          rw [List.append_assoc]
          exact @Remembers.name front pieces literal [] accepted
  | closes => exact .literal
  | named =>
      cases remembers with
      | name accepted =>
          rw [List.append_assoc, List.append_assoc, ← List.reverse_cons]
          exact .name accepted

/-- After every text that it takes the scanner remembers where the present
construct began. -/
theorem remembers_of_run (taken : initial.run 0 text = .ok scanner) : Remembers text scanner := by
  induction text using List.reverseRecOn generalizing scanner with
  | nil =>
      cases taken
      exact .literal
  | append_singleton front character inductiveHypothesis =>
      rw [run_append] at taken
      rcases Except.bind_eq_ok_iff.mp taken with ⟨middle, before, last⟩
      rw [Nat.zero_add, run_singleton] at last
      exact remembers_step before (inductiveHypothesis before) last

/-! ## What may follow -/

/-- Whatever has been taken can be completed: by another symbol, or by a name
and a brace. -/
theorem isViable_of_run (taken : initial.run 0 text = .ok scanner) : IsViable text := by
  have completes : forall (back : List Char) (last : Scanner),
      scanner.run text.length back = .ok last -> last.mode = .literal -> IsViable text := by
    intro back last ran between
    refine ⟨text ++ back, List.prefix_append _ _, isAccepted_of_run ?_ between⟩
    rw [run_append_of_ok taken, Nat.zero_add]
    exact ran
  rcases scanner with ⟨mode, pieces, literal, name⟩
  cases mode with
  | literal => exact completes [] _ rfl rfl
  | symbol opened => exact completes ['$'] _ rfl rfl
  | name opened => exact completes ['a', '}'] _ rfl rfl

/-- A text that is refused at a character is refused however it goes on after
it. -/
theorem isDoomed_of_step (taken : initial.run 0 front = .ok scanner)
    (refused : scanner.step front.length character = .error error) :
    IsDoomed (front ++ [character]) error := by
  rintro _ ⟨back, rfl⟩
  have stops : initial.run 0 (front ++ [character] ++ back) = .error error := by
    rw [List.append_assoc, run_append_of_ok taken, Nat.zero_add, List.singleton_append, run, refused]
  rw [parse, String.toList_ofList, stops]
  rfl

end Scanner

open Scanner

/-! ## What the problems say -/

theorem take_append_cons (front : List Char) (character : Char) (back : List Char) :
    (front ++ character :: back).take (front.length + 1) = front ++ [character] := by
  rw [List.take_length_add_append]
  rfl

/-- A character that is refused is the first one at which the text is beyond
repair.  Only for empty braces is the symbol before them pointed at. -/
theorem pointsAt_of_step {scanner : Scanner} {character : Char}
    (taken : initial.run 0 front = .ok scanner)
    (refused : scanner.step front.length character = .error error) :
    PointsAt (front ++ character :: back) error.offset error.problem := by
  have viable := isViable_of_run taken
  have doomed := isDoomed_of_step taken refused
  rcases step_eq_error refused with
    ⟨opened, _, rfl⟩ | ⟨opened, _, rfl⟩ | ⟨opened, begun, nameless, rfl, rfl⟩
  · refine ⟨by simp, ?_, ?_⟩
    · rw [List.take_left]
      exact viable
    · rw [take_append_cons]
      exact doomed
  · refine ⟨by simp, ?_, ?_⟩
    · rw [List.take_left]
      exact viable
    · rw [take_append_cons]
      exact doomed
  · cases remembers_of_run taken with
    | literal => cases begun
    | symbol accepted => cases begun
    | @name before _ _ _ accepted =>
        cases begun
        cases nameless
        have written : before ++ (['$', '{'] ++ [].reverse) ++ closingBrace :: back =
            before ++ (['$', '{', '}'] ++ back) := by
          simp [closingBrace]
        rw [written]
        refine ⟨by simp, ?_, ?_⟩
        · rw [List.take_length_add_append]
          exact viable
        · rw [List.take_length_add_append]
          rw [List.append_assoc] at doomed
          exact doomed

/-- A text that ends in the middle of a construct was a template before it,
and can be completed to one. -/
theorem pointsAt_of_finish {scanner : Scanner} (taken : initial.run 0 text = .ok scanner)
    (unfinished : scanner.finish = .error error) :
    PointsAt text error.offset error.problem := by
  have viable := isViable_of_run taken
  have sound := (run_eq_ok isSound_initial taken).1
  cases remembers_of_run taken with
  | literal => cases unfinished
  | symbol accepted =>
      cases unfinished
      refine ⟨viable, List.drop_left, ?_⟩
      rw [List.take_left]
      exact accepted
  | @name front _ _ name accepted =>
      cases unfinished
      refine ⟨viable, ⟨name.reverse, List.drop_left, fun character member => ?_⟩, ?_⟩
      · exact sound.name character (List.mem_reverse.mp member)
      · rw [List.take_left]
        exact accepted

/-- The offset of a problem is the first place at which the text is beyond
repair: up to there some template begins like the text, and no text that has
the same characters up to there and at it is a template, nor is refused for
anything else.  For braces with nothing between them it is the place of their
symbol.  A text that ends too early can be completed, and the offset is that
of the symbol of the construct in which it ends; what stands before that
symbol is a template. -/
theorem pointsAt_of_parse_eq_error {text : String} {offset : Nat} {problem : Problem}
    (failed : parse text = .error ⟨offset, problem⟩) : PointsAt text.toList offset problem := by
  cases taken : initial.run 0 text.toList with
  | error fault =>
      have same : parse text = .error fault := by
        rw [parse, taken]
        rfl
      cases failed.symm.trans same
      rcases run_eq_error taken with ⟨front, character, back, scanner, written, before, refused⟩
      rw [Nat.zero_add] at refused
      rw [written]
      exact pointsAt_of_step before refused
  | ok scanner =>
      have unfinished : scanner.finish = .error ⟨offset, problem⟩ := by
        rw [parse, taken] at failed
        exact failed
      exact pointsAt_of_finish taken unfinished

theorem pointsAt_of_parse_eq_error_emptyExample :
    parse "$$${a}${}!" = .error ⟨6, .emptyPlaceholder⟩ ∧
      PointsAt "$$${a}${}!".toList 6 .emptyPlaceholder := by
  have failed : parse "$$${a}${}!" = .error ⟨6, .emptyPlaceholder⟩ := by
    rfl
  exact ⟨failed, pointsAt_of_parse_eq_error failed⟩

end Template
end Stencil

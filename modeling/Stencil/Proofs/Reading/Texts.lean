import Stencil.Proofs.Reading.Counting
import Stencil.Proofs.Reading.Quotation
import Stencil.Regex.Basic

namespace Stencil
namespace Regex

/-!
Reading a text to its end, from wherever a reading has come.  A text that does
not end in a single backslash is empty or begins with a token, so what is said
of its tokens can be said of its characters.
-/

namespace Token

variable {token : Token}

/-- The token is one that a text splits into.  A single backslash is none,
since it takes the next character with it. -/
def IsProper (token : Token) : Prop :=
  token.escaped = false -> token.character ≠ '\\'

theorem isProper_of_ne {character : Char} (notBackslash : character ≠ '\\') :
    IsProper ⟨false, character⟩ :=
  fun _ => notBackslash

theorem split_characters (proper : token.IsProper) (rest : List Char) :
    split (token.characters ++ rest) = (token :: (split rest).1, (split rest).2) := by
  rcases token with ⟨escaped, character⟩
  cases escaped with
  | true => exact split_escaped character rest
  | false => exact split_cons_of_ne (proper rfl) rest

/-- The characters of a token are nothing but that token. -/
theorem split_single (proper : token.IsProper) : split token.characters = ([token], false) := by
  have alone := split_characters proper []
  rwa [List.append_nil] at alone

theorem characters_ne_nil (token : Token) : token.characters ≠ [] := by
  rcases token with ⟨escaped, character⟩
  cases escaped <;> exact nofun

theorem eq_of_is {character : Char} (is : token.is character = true) :
    token = ⟨false, character⟩ := by
  rcases token with ⟨escaped, own⟩
  simpa [Token.is] using is

theorem head?_of_is {character : Char} (is : token.is character = true) (rest : List Char) :
    (token.characters ++ rest).head? = some character := by
  rw [eq_of_is is]
  rfl

theorem eq_nil_or_exists_characters {text : List Char} (whole : (split text).2 = false) :
    text = [] ∨ ∃ (token : Token) (rest : List Char), token.IsProper ∧
      text = token.characters ++ rest := by
  match text with
  | [] => exact .inl rfl
  | [character] =>
      by_cases backslash : character = '\\'
      · subst backslash
        cases whole
      · exact .inr ⟨⟨false, character⟩, [], fun _ => backslash, rfl⟩
  | first :: second :: rest =>
      by_cases backslash : first = '\\'
      · subst backslash
        exact .inr ⟨⟨true, second⟩, rest, nofun, rfl⟩
      · exact .inr ⟨⟨false, first⟩, second :: rest, fun _ => backslash, rfl⟩

end Token

namespace Reading

variable {reading other later : Reading} {token : Token} {text rest : List Char}
  {assembly : Assembly}

/-- Reading the text goes through and gives the assembly.  The text may stand
anywhere, as long as no backslash is left at its end. -/
structure ReadsTo (reading : Reading) (text : List Char) (assembly : Assembly) : Prop where
  whole : (Token.split text).2 = false
  done : (reading.takeAll (Token.split text).1 >>= finish) = .ok assembly

theorem read_eq_ok_iff : read text = .ok assembly ↔ initial.ReadsTo text assembly := by
  unfold read
  rcases split : Token.split text with ⟨tokens, dangling⟩
  cases dangling with
  | true =>
      constructor
      · intro impossible
        cases impossible
      · rintro ⟨whole, _⟩
        rw [split] at whole
        cases whole
  | false =>
      constructor
      · intro done
        exact ⟨congrArg Prod.snd split, (congrArg Prod.fst split).symm ▸ done⟩
      · rintro ⟨_, done⟩
        rw [split] at done
        exact done

theorem readsTo_nil_iff : reading.ReadsTo [] assembly ↔ reading.finish = .ok assembly :=
  ⟨fun reads => reads.done, fun done => ⟨rfl, done⟩⟩

theorem readsTo_token_iff (proper : token.IsProper) :
    reading.ReadsTo (token.characters ++ rest) assembly ↔
      ∃ later, reading.take token = .ok later ∧ later.ReadsTo rest assembly := by
  have tokens := Token.split_characters proper rest
  constructor
  · rintro ⟨whole, done⟩
    rw [tokens] at whole done
    rcases Except.bind_eq_ok_iff.mp done with ⟨last, taken, ended⟩
    rcases takeAll_cons_eq_ok_iff.mp taken with ⟨later, first, others⟩
    exact ⟨later, first, whole, Except.bind_eq_ok_iff.mpr ⟨last, others, ended⟩⟩
  · rintro ⟨later, first, whole, done⟩
    rcases Except.bind_eq_ok_iff.mp done with ⟨last, others, ended⟩
    constructor
    · rw [tokens]
      exact whole
    · rw [tokens]
      exact Except.bind_eq_ok_iff.mpr ⟨last, takeAll_cons_eq_ok_iff.mpr ⟨later, first, others⟩, ended⟩

theorem readsTo_cons_iff {character : Char} (notBackslash : character ≠ '\\') :
    reading.ReadsTo (character :: rest) assembly ↔
      ∃ later, reading.take ⟨false, character⟩ = .ok later ∧ later.ReadsTo rest assembly :=
  readsTo_token_iff (Token.isProper_of_ne notBackslash)

theorem readsTo_append_iff {front : List Char} (whole : (Token.split front).2 = false) :
    reading.ReadsTo (front ++ rest) assembly ↔
      ∃ later, reading.takeAll (Token.split front).1 = .ok later ∧ later.ReadsTo rest assembly := by
  have tokens := Token.split_append whole rest
  constructor
  · rintro ⟨wholeRest, done⟩
    rw [tokens] at wholeRest done
    rcases Except.bind_eq_ok_iff.mp done with ⟨last, taken, ended⟩
    rcases takeAll_append_eq_ok_iff.mp taken with ⟨later, first, others⟩
    exact ⟨later, first, wholeRest, Except.bind_eq_ok_iff.mpr ⟨last, others, ended⟩⟩
  · rintro ⟨later, first, wholeRest, done⟩
    rcases Except.bind_eq_ok_iff.mp done with ⟨last, others, ended⟩
    constructor
    · rw [tokens]
      exact wholeRest
    · rw [tokens]
      exact Except.bind_eq_ok_iff.mpr
        ⟨last, takeAll_append_eq_ok_iff.mpr ⟨later, first, others⟩, ended⟩

theorem ReadsTo.becomes (reads : reading.ReadsTo text assembly) :
    reading.assembly.Becomes assembly := by
  rcases Except.bind_eq_ok_iff.mp reads.done with ⟨last, taken, ended⟩
  exact (becomes_takeAll taken).trans (becomes_finish ended)

theorem ReadsTo.endFault? (reads : reading.ReadsTo text assembly) : assembly.endFault? = none := by
  rcases Except.bind_eq_ok_iff.mp reads.done with ⟨last, _, ended⟩
  rcases finish_eq_ok_iff.mp ended with ⟨completed, completing, noFault, rfl⟩
  exact (mode_of_endFault? completing noFault).2

/-- Readings that settle alike before the first token read alike. -/
theorem ReadsTo.congr (reads : reading.ReadsTo text assembly)
    (same : reading.settle (Token.split text).1.head? = other.settle (Token.split text).1.head?) :
    other.ReadsTo text assembly := by
  refine ⟨reads.whole, ?_⟩
  have done := reads.done
  cases tokens : (Token.split text).1 with
  | nil =>
      rw [tokens] at done same
      have ended : reading.finish = other.finish := congrArg (· >>= _) same
      exact ended.symm.trans done
  | cons token others =>
      rw [tokens] at done same
      have settles : reading.settle (some token) = other.settle (some token) := same
      have taken : reading.take token = other.take token := by
        unfold take
        rw [settles]
      have all : reading.takeAll (token :: others) = other.takeAll (token :: others) := by
        unfold takeAll
        rw [List.foldlM_cons, List.foldlM_cons, taken]
      exact all ▸ done

end Reading

/-- What can be compiled can be read to its end, and holds nothing that a
finished expression may not hold. -/
theorem compile_eq_ok_iff {text : String} {regex : Regex} :
    compile text = .ok regex ↔
      ∃ assembly, Reading.initial.ReadsTo text.toList assembly ∧
        (Expr.sequence (Assembly.items assembly.frame)).problem? assembly.flags.unrepeated = none ∧
        regex = ⟨text, assembly.flags.complete, assembly.groupCount, assembly.names,
          Expr.sequence (Assembly.items assembly.frame)⟩ := by
  have compiled : compile text = .ok regex ↔
      (Reading.read text.toList >>= ofAssembly text) = .ok regex := by
    unfold compile
    cases Reading.read text.toList >>= ofAssembly text with
    | error fault => exact ⟨nofun, nofun⟩
    | ok regex => simp only [Except.ok.injEq]
  rw [compiled, Except.bind_eq_ok_iff]
  constructor
  · rintro ⟨assembly, read, made⟩
    unfold ofAssembly at made
    dsimp only at made
    split at made
    · cases made
    · rename_i noProblem
      cases made
      exact ⟨assembly, Reading.read_eq_ok_iff.mp read, noProblem, rfl⟩
  · rintro ⟨assembly, reads, noProblem, rfl⟩
    refine ⟨assembly, Reading.read_eq_ok_iff.mpr reads, ?_⟩
    unfold ofAssembly
    dsimp only
    rw [noProblem]

theorem compile_eq_ok {text : String} {regex : Regex} (done : compile text = .ok regex) :
    ∃ assembly, Reading.initial.ReadsTo text.toList assembly ∧
      regex = ⟨text, assembly.flags.complete, assembly.groupCount, assembly.names,
        Expr.sequence (Assembly.items assembly.frame)⟩ := by
  rcases compile_eq_ok_iff.mp done with ⟨assembly, reads, _, same⟩
  exact ⟨assembly, reads, same⟩

/-- Read alone, the text sets no flags for the whole expression.  It can be
read at all, too. -/
def IsFlagless (text : String) : Prop :=
  (Reading.read text.toList).map Assembly.flags = .ok {}

theorem isFlagless_iff {text : String} {assembly : Assembly}
    (reads : Reading.initial.ReadsTo text.toList assembly) :
    IsFlagless text ↔ assembly.flags = {} := by
  unfold IsFlagless
  rw [Reading.read_eq_ok_iff.mpr reads]
  exact ⟨Except.ok.inj, congrArg Except.ok⟩

end Regex
end Stencil

import Stencil.Proofs.Outcome
import Stencil.Template.Printer
import Stencil.Template.Scanner

namespace Stencil

/-!
The grammar of templates, and the two ways through it.  A template's text is a
run of constructs: characters that stand for themselves, doubled opening
symbols, and placeholders in braces.  The scanner accepts the texts of this
grammar and no others, what it reads is written as that text, and whatever is
written with names that placeholders may have is read again, literal by
literal.

Both directions follow the scanner.  What it has taken so far can always be
written from its memory, whatever mode it is in; and a construct takes it from
one literal to the same or the next one.

The main statement is `Template.parse_inverts_print`.
-/

/-! ## The grammar -/

namespace Fragment

/-- The fragments of a template can be told apart by their order alone, since
literals and placeholders take turns. -/
theorem alternating_texts (template : Template) :
    alternating (template.fragments.map text) = template.fragments := by
  obtain ⟨pieces, last⟩ := template
  induction pieces with
  | nil => rfl
  | cons piece rest inductiveHypothesis =>
      exact congrArg ([.literal piece.1, .placeholder piece.2] ++ ·) inductiveHypothesis

end Fragment

namespace Template

/-- What may be a placeholder's name: ASCII letters, digits and a few signs,
at least one of them. -/
def IsName (name : List Char) : Prop :=
  name ≠ [] ∧ forall character, character ∈ name ->
    character.isAlphanum = true ∨ character ∈ ['_', '-', '+', '/', ':', '=', '#']

/-- A part of a template's text: a character, a doubled symbol, or a
placeholder in its braces. -/
inductive Construct where
  /-- A character that stands for itself. -/
  | plain (character : Char)
  /-- The opening symbol twice. -/
  | doubled
  | placeholder (name : List Char)

namespace Construct

def IsProper : Construct -> Prop
  | .plain character => character ≠ '$'
  | .doubled => True
  | .placeholder name => IsName name

def written : Construct -> List Char
  | .plain character => [character]
  | .doubled => ['$', '$']
  | .placeholder name => ['$', '{'] ++ name ++ ['}']

end Construct

/-- The text is a run of constructs.  Nothing is said of how it is cut into
them. -/
def IsWellFormed (text : List Char) : Prop :=
  ∃ constructs : List Construct, (forall construct, construct ∈ constructs -> construct.IsProper) ∧
    text = constructs.flatMap Construct.written

def texts (template : Template) : List String :=
  template.fragments.map Fragment.text

def printTexts (texts : List String) : String :=
  print (Fragment.alternating texts)

/-- Every name is one that a placeholder may have.  Templates that are put
together otherwise need not have such names. -/
def HasNames (template : Template) : Prop :=
  forall name, name ∈ template.names -> IsName name.toList

theorem isNameCharacter_iff (character : Char) : isNameCharacter character = true ↔
    character.isAlphanum = true ∨ character ∈ ['_', '-', '+', '/', ':', '=', '#'] := by
  have letters : isAsciiAlphanumeric character = character.isAlphanum := by
    have kinds : character.isAlphanum =
        (decide ('A' ≤ character ∧ character ≤ 'Z') || ('a' ≤ character && character ≤ 'z') ||
          ('0' ≤ character && character ≤ '9')) := rfl
    rw [Bool.eq_iff_iff, kinds]
    simp only [isAsciiAlphanumeric, Bool.or_eq_true, Bool.and_eq_true, decide_eq_true_eq]
    rw [or_assoc, or_comm]
  have signs : namePunctuation.contains character = true ↔
      character ∈ ['_', '-', '+', '/', ':', '=', '#'] := by
    rw [List.contains_iff_mem]
    exact List.Perm.mem_iff (by decide)
  rw [isNameCharacter, Bool.or_eq_true, signs, letters, or_comm]

/-- Names are what the scanner takes between the braces, character by
character and at least one. -/
theorem isName_iff {name : List Char} :
    IsName name ↔ name ≠ [] ∧ forall character, character ∈ name ->
      isNameCharacter character = true := by
  simp only [IsName, isNameCharacter_iff]

/-! ## What is written -/

def pieceCharacters (piece : String × String) : List Char :=
  escapeCharacters piece.1.toList ++ (['$', '{'] ++ piece.2.toList ++ ['}'])

/-- The characters that a template is written with. -/
def characters (template : Template) : List Char :=
  template.pieces.flatMap pieceCharacters ++ escapeCharacters template.last.toList

theorem toList_print (fragments : List Fragment) :
    (print fragments).toList = fragments.flatMap fun fragment => (printFragment fragment).toList := by
  have onward : forall text : String,
      (fragments.foldl (fun text fragment => text ++ printFragment fragment) text).toList =
        text.toList ++ fragments.flatMap fun fragment => (printFragment fragment).toList := by
    induction fragments with
    | nil => exact fun text => (List.append_nil _).symm
    | cons fragment rest inductiveHypothesis =>
        intro text
        rw [List.foldl_cons, inductiveHypothesis, String.toList_append, List.append_assoc,
          List.flatMap_cons]
  exact onward ""

theorem toList_printTexts (template : Template) :
    (printTexts template.texts).toList = template.characters := by
  rw [printTexts, texts, Fragment.alternating_texts, toList_print, fragments, characters,
    List.flatMap_append, List.flatMap_assoc, List.flatMap_singleton]
  simp only [List.flatMap_cons, List.flatMap_nil, List.append_nil, printFragment, escapeLiteral,
    String.toList_ofList]
  rfl

theorem escapeCharacters_append (front back : List Char) :
    escapeCharacters (front ++ back) = escapeCharacters front ++ escapeCharacters back := by
  induction front with
  | nil => rfl
  | cons character rest inductiveHypothesis =>
      rw [List.cons_append, escapeCharacters, escapeCharacters, inductiveHypothesis]
      split <;> rfl

/-- A character of a literal is written as a construct of its own. -/
def constructOf (character : Char) : Construct :=
  if character = openingSymbol then .doubled else .plain character

theorem isProper_constructOf (character : Char) : (constructOf character).IsProper := by
  unfold constructOf
  split
  · trivial
  · assumption

theorem flatMap_constructOf (literal : List Char) :
    (literal.map constructOf).flatMap Construct.written = escapeCharacters literal := by
  induction literal with
  | nil => rfl
  | cons character rest inductiveHypothesis =>
      rw [List.map_cons, List.flatMap_cons, inductiveHypothesis, escapeCharacters, constructOf]
      split <;> rfl

/-- What a template with proper names is written with is well formed, whatever
its literals hold. -/
theorem HasNames.isWellFormed {template : Template} (named : template.HasNames) :
    IsWellFormed template.characters := by
  obtain ⟨pieces, last⟩ := template
  induction pieces with
  | nil =>
      refine ⟨last.toList.map constructOf, fun construct member => ?_, (flatMap_constructOf _).symm⟩
      obtain ⟨character, _, rfl⟩ := List.mem_map.mp member
      exact isProper_constructOf character
  | cons piece rest inductiveHypothesis =>
      obtain ⟨literal, name⟩ := piece
      obtain ⟨isName, others⟩ := List.forall_mem_cons.mp named
      obtain ⟨constructs, proper, written⟩ := inductiveHypothesis others
      refine ⟨literal.toList.map constructOf ++ .placeholder name.toList :: constructs, ?_, ?_⟩
      · intro construct member
        rcases List.mem_append.mp member with inLiteral | later
        · obtain ⟨character, _, rfl⟩ := List.mem_map.mp inLiteral
          exact isProper_constructOf character
        · rcases List.mem_cons.mp later with rfl | further
          · exact isName
          · exact proper construct further
      · have begun : characters ⟨(literal, name) :: rest, last⟩ =
            pieceCharacters (literal, name) ++ characters ⟨rest, last⟩ := List.append_assoc _ _ _
        rw [begun, written, List.flatMap_append, List.flatMap_cons, flatMap_constructOf,
          ← List.append_assoc]
        rfl

/-! ## What the scanner has taken -/

namespace Scanner

/-- The text taken so far, written from the scanner's memory.  This is what
makes the memory faithful. -/
def taken (scanner : Scanner) : List Char :=
  scanner.pieces.reverse.flatMap pieceCharacters ++ escapeCharacters scanner.literal.reverse ++
    match scanner.mode with
    | .literal => []
    | .symbol _ => ['$']
    | .name _ => ['$', '{'] ++ scanner.name.reverse

/-- The names read, finished or not, are names, and between two of them
nothing is remembered of either. -/
structure IsSound (scanner : Scanner) : Prop where
  pieces : forall piece, piece ∈ scanner.pieces -> IsName piece.2.toList
  name : forall character, character ∈ scanner.name -> isNameCharacter character = true
  between : (forall opened, scanner.mode ≠ .name opened) -> scanner.name = []

theorem isSound_initial : initial.IsSound :=
  ⟨nofun, nofun, fun _ => rfl⟩

variable {scanner next : Scanner} {offset : Nat} {character : Char}

/-- What the character at `offset` does to a scanner that takes it, with one
constructor for each way of going on. -/
inductive Steps (offset : Nat) : Scanner -> Char -> Scanner -> Prop where
  | begins {pieces : List (String × String)} {literal name : List Char} :
      Steps offset ⟨.literal, pieces, literal, name⟩ '$' ⟨.symbol offset, pieces, literal, name⟩
  | plain {character : Char} {pieces : List (String × String)} {literal name : List Char}
      (plain : character ≠ '$') :
      Steps offset ⟨.literal, pieces, literal, name⟩ character
        ⟨.literal, pieces, character :: literal, name⟩
  | doubled {opened : Nat} {pieces : List (String × String)} {literal name : List Char} :
      Steps offset ⟨.symbol opened, pieces, literal, name⟩ '$'
        ⟨.literal, pieces, '$' :: literal, name⟩
  | opens {opened : Nat} {pieces : List (String × String)} {literal name : List Char} :
      Steps offset ⟨.symbol opened, pieces, literal, name⟩ '{' ⟨.name opened, pieces, literal, name⟩
  | closes {opened : Nat} {pieces : List (String × String)} {literal name : List Char}
      (named : name ≠ []) :
      Steps offset ⟨.name opened, pieces, literal, name⟩ '}'
        ⟨.literal, (String.ofList literal.reverse, String.ofList name.reverse) :: pieces, [], []⟩
  | named {opened : Nat} {character : Char} {pieces : List (String × String)}
      {literal name : List Char} (isNameCharacter : isNameCharacter character = true) :
      Steps offset ⟨.name opened, pieces, literal, name⟩ character
        ⟨.name opened, pieces, literal, character :: name⟩

theorem step_eq_ok_iff : scanner.step offset character = .ok next ↔
    Steps offset scanner character next := by
  constructor
  · intro done
    obtain ⟨mode, pieces, literal, name⟩ := scanner
    cases mode with
    | literal =>
        simp only [step] at done
        split at done
        · rename_i symbol
          cases symbol
          cases done
          exact .begins
        · rename_i plain
          cases done
          exact .plain plain
    | symbol opened =>
        simp only [step] at done
        split at done
        · rename_i symbol
          cases symbol
          cases done
          exact .doubled
        split at done
        · rename_i brace
          cases brace
          cases done
          exact .opens
        · cases done
    | name opened =>
        simp only [step] at done
        split at done
        · rename_i brace
          cases brace
          split at done
          · cases done
          · rename_i named
            cases done
            exact .closes fun nameless => named (List.isEmpty_iff.mpr nameless)
        split at done
        · rename_i isNameCharacter
          cases done
          exact .named isNameCharacter
        · cases done
  · intro steps
    cases steps with
    | begins => rfl
    | plain plain => exact if_neg plain
    | doubled => rfl
    | opens => rfl
    | closes named => exact if_neg fun nameless => named (List.isEmpty_iff.mp nameless)
    | named isNameCharacter =>
        have notBrace : character ≠ closingBrace := by
          rintro rfl
          exact absurd isNameCharacter (by decide)
        simp only [step, if_neg notBrace, isNameCharacter, if_true]

theorem Steps.isSound (steps : Steps offset scanner character next) (sound : scanner.IsSound) :
    next.IsSound := by
  obtain ⟨piecesSound, nameSound, between⟩ := sound
  cases steps with
  | begins => exact ⟨piecesSound, nameSound, fun _ => between nofun⟩
  | plain => exact ⟨piecesSound, nameSound, fun _ => between nofun⟩
  | doubled => exact ⟨piecesSound, nameSound, fun _ => between nofun⟩
  | @opens opened => exact ⟨piecesSound, nameSound, fun different => absurd rfl (different opened)⟩
  | @closes opened pieces literal name named =>
      have isName : IsName (String.ofList name.reverse).toList := by
        rw [String.toList_ofList, isName_iff]
        refine ⟨fun nameless => named (List.reverse_eq_nil_iff.mp nameless), fun character member => ?_⟩
        exact nameSound character (List.mem_reverse.mp member)
      exact ⟨List.forall_mem_cons.mpr ⟨isName, piecesSound⟩, nofun, fun _ => rfl⟩
  | @named opened _ _ _ _ isNameCharacter =>
      exact ⟨piecesSound, List.forall_mem_cons.mpr ⟨isNameCharacter, nameSound⟩,
        fun different => absurd rfl (different opened)⟩

/-- Every character taken is remembered, behind those that were taken before
it. -/
theorem Steps.taken_eq (steps : Steps offset scanner character next) (sound : scanner.IsSound) :
    next.taken = scanner.taken ++ [character] := by
  cases steps with
  | begins =>
      simp only [taken, List.append_nil]
  | @plain character _ _ _ plain =>
      have alone : escapeCharacters [character] = [character] := if_neg plain
      simp only [taken, List.append_nil, List.reverse_cons, escapeCharacters_append, alone,
        List.append_assoc]
  | doubled =>
      simp only [taken, List.append_nil, List.reverse_cons, escapeCharacters_append,
        List.append_assoc]
      rfl
  | opens =>
      cases sound.between nofun
      simp only [taken, List.append_assoc]
      rfl
  | closes =>
      simp only [taken, List.reverse_cons, List.flatMap_append, List.flatMap_singleton,
        pieceCharacters, String.toList_ofList, List.append_assoc]
      rfl
  | named =>
      simp only [taken, List.reverse_cons, List.append_assoc]

theorem run_eq_ok {text : List Char} (sound : scanner.IsSound)
    (done : scanner.run offset text = .ok next) :
    next.IsSound ∧ next.taken = scanner.taken ++ text := by
  induction text generalizing scanner offset with
  | nil =>
      cases done
      exact ⟨sound, (List.append_nil _).symm⟩
  | cons character rest inductiveHypothesis =>
      rw [run] at done
      split at done
      · rename_i middle first
        have steps := step_eq_ok_iff.mp first
        obtain ⟨nextSound, nextTaken⟩ := inductiveHypothesis (steps.isSound sound) done
        refine ⟨nextSound, ?_⟩
        rw [nextTaken, steps.taken_eq sound, List.append_assoc]
        rfl
      · cases done

end Scanner

/-- What is read has proper names, and it is written as it was, so that
reading loses nothing. -/
theorem characters_of_parse {text : String} {template : Template}
    (done : parse text = .ok template) :
    template.HasNames ∧ template.characters = text.toList := by
  obtain ⟨scanner, ran, finished⟩ := Except.bind_eq_ok_iff.mp done
  obtain ⟨sound, taken⟩ := Scanner.run_eq_ok Scanner.isSound_initial ran
  obtain ⟨mode, pieces, literal, name⟩ := scanner
  cases mode with
  | literal =>
      cases finished
      constructor
      · intro name member
        obtain ⟨piece, among, rfl⟩ := List.mem_map.mp member
        exact sound.pieces piece (List.mem_reverse.mp among)
      · rw [Scanner.taken, List.append_nil] at taken
        rw [characters, String.toList_ofList]
        exact taken
  | symbol opened => cases finished
  | name opened => cases finished

/-! ## What the scanner takes -/

namespace Scanner

variable {pieces : List (String × String)} {literal name : List Char} {offset : Nat}

theorem run_name {characters : List Char} (opened : Nat)
    (named : forall character, character ∈ characters -> isNameCharacter character = true)
    (rest : List Char) :
    run ⟨.name opened, pieces, literal, name⟩ offset (characters ++ rest) =
      run ⟨.name opened, pieces, literal, characters.reverse ++ name⟩ (offset + characters.length)
        rest := by
  induction characters generalizing name offset with
  | nil => rfl
  | cons character others inductiveHypothesis =>
      obtain ⟨first, later⟩ := List.forall_mem_cons.mp named
      rw [List.cons_append, run, step_eq_ok_iff.mpr (.named first)]
      dsimp only
      rw [inductiveHypothesis later, List.reverse_cons, List.append_assoc, List.length_cons,
        Nat.add_assoc, Nat.add_comm 1]
      rfl

/-- A placeholder in braces ends a piece. -/
theorem run_placeholder {characters : List Char} (isName : IsName characters) (rest : List Char) :
    run ⟨.literal, pieces, literal, []⟩ offset (['$', '{'] ++ characters ++ ['}'] ++ rest) =
      run ⟨.literal, (String.ofList literal.reverse, String.ofList characters) :: pieces, [], []⟩
        (offset + (characters.length + 3)) rest := by
  obtain ⟨nonempty, named⟩ := isName_iff.mp isName
  have opening : run ⟨.literal, pieces, literal, []⟩ offset
        (['$', '{'] ++ characters ++ ['}'] ++ rest) =
      run ⟨.name offset, pieces, literal, []⟩ (offset + 2) (characters ++ ('}' :: rest)) := by
    simp only [List.append_assoc, List.cons_append, List.nil_append]
    rfl
  have closing : step ⟨.name offset, pieces, literal, characters.reverse ++ []⟩
        (offset + 2 + characters.length) '}' =
      .ok ⟨.literal, (String.ofList literal.reverse, String.ofList characters) :: pieces, [], []⟩ := by
    have someReversed : characters.reverse ≠ [] := fun empty => nonempty (List.reverse_eq_nil_iff.mp empty)
    rw [List.append_nil, step_eq_ok_iff.mpr (.closes someReversed), List.reverse_reverse]
  rw [opening, run_name offset named, run, closing]
  dsimp only
  congr 1
  omega

/-- A literal is read as it was before its symbols were doubled. -/
theorem run_escapeCharacters (characters rest : List Char) :
    run ⟨.literal, pieces, literal, []⟩ offset (escapeCharacters characters ++ rest) =
      run ⟨.literal, pieces, characters.reverse ++ literal, []⟩
        (offset + (escapeCharacters characters).length) rest := by
  induction characters generalizing literal offset with
  | nil => rfl
  | cons character others inductiveHypothesis =>
      rw [escapeCharacters]
      split
      · rename_i symbol
        cases symbol
        have doubled : run ⟨.literal, pieces, literal, []⟩ offset
              (openingSymbol :: openingSymbol :: escapeCharacters others ++ rest) =
            run ⟨.literal, pieces, openingSymbol :: literal, []⟩ (offset + 2)
              (escapeCharacters others ++ rest) := rfl
        rw [doubled, inductiveHypothesis, List.reverse_cons, List.append_assoc]
        simp only [List.length_cons]
        congr 1
        omega
      · rename_i plain
        rw [List.cons_append, run, step_eq_ok_iff.mpr (.plain plain)]
        dsimp only
        rw [inductiveHypothesis, List.reverse_cons, List.append_assoc]
        simp only [List.length_cons]
        congr 1
        omega

/-- The pieces and the last literal that a template is written with are read
again. -/
theorem run_characters {template : Template} (named : template.HasNames) :
    run ⟨.literal, pieces, [], []⟩ offset template.characters =
      .ok ⟨.literal, template.pieces.reverse ++ pieces, template.last.toList.reverse, []⟩ := by
  obtain ⟨own, last⟩ := template
  induction own generalizing pieces offset with
  | nil =>
      have whole : run ⟨.literal, pieces, [], []⟩ offset (escapeCharacters last.toList ++ []) =
          .ok ⟨.literal, pieces, last.toList.reverse ++ [], []⟩ :=
        run_escapeCharacters last.toList []
      rw [List.append_nil, List.append_nil] at whole
      exact whole
  | cons piece rest inductiveHypothesis =>
      obtain ⟨before, name⟩ := piece
      obtain ⟨isName, others⟩ := List.forall_mem_cons.mp named
      have begun : characters ⟨(before, name) :: rest, last⟩ =
          escapeCharacters before.toList ++
            (['$', '{'] ++ name.toList ++ ['}'] ++ characters ⟨rest, last⟩) := by
        simp only [characters, List.flatMap_cons, pieceCharacters, List.append_assoc]
      rw [begun, run_escapeCharacters, run_placeholder isName, List.append_nil,
        List.reverse_reverse, String.ofList_toList, String.ofList_toList,
        inductiveHypothesis others, List.reverse_cons, List.append_assoc]
      rfl

end Scanner

/-- What is written with proper names is read again.  The scanner comes to the
same pieces. -/
theorem HasNames.parse {template : Template} (named : template.HasNames) {text : String}
    (written : template.characters = text.toList) : Template.parse text = .ok template := by
  unfold Template.parse Scanner.initial
  rw [← written, Scanner.run_characters named]
  change Except.ok (Template.mk _ _) = _
  rw [List.append_nil, List.reverse_reverse, List.reverse_reverse, String.ofList_toList]

def prepend (character : Char) : Template -> Template
  | ⟨[], last⟩ => ⟨[], String.ofList (character :: last.toList)⟩
  | ⟨(literal, name) :: rest, last⟩ =>
      ⟨(String.ofList (character :: literal.toList), name) :: rest, last⟩

theorem characters_prepend (character : Char) (template : Template) :
    (template.prepend character).characters =
      escapeCharacters [character] ++ template.characters := by
  have escaped (literal : List Char) : escapeCharacters (character :: literal) =
      escapeCharacters [character] ++ escapeCharacters literal :=
    escapeCharacters_append [character] literal
  obtain ⟨_ | ⟨piece, rest⟩, last⟩ := template
  · rw [prepend, characters, String.toList_ofList]
    exact escaped _
  · rw [prepend, characters, characters, List.flatMap_cons, List.flatMap_cons, pieceCharacters,
      pieceCharacters, String.toList_ofList, escaped]
    simp only [List.append_assoc]

theorem names_prepend (character : Char) (template : Template) :
    (template.prepend character).names = template.names := by
  obtain ⟨_ | ⟨piece, rest⟩, last⟩ := template <;> rfl

/-- Every well-formed text is what some template with proper names is written
with. -/
theorem IsWellFormed.exists_template {text : List Char} (wellFormed : IsWellFormed text) :
    ∃ template : Template, template.HasNames ∧ template.characters = text := by
  obtain ⟨constructs, proper, rfl⟩ := wellFormed
  induction constructs with
  | nil => exact ⟨⟨[], ""⟩, nofun, rfl⟩
  | cons construct rest inductiveHypothesis =>
      obtain ⟨isProper, others⟩ := List.forall_mem_cons.mp proper
      obtain ⟨template, named, written⟩ := inductiveHypothesis others
      rw [List.flatMap_cons, ← written]
      cases construct with
      | plain character =>
          refine ⟨template.prepend character, ?_, ?_⟩
          · rw [HasNames, names_prepend]
            exact named
          · have alone : character ≠ openingSymbol := isProper
            rw [characters_prepend, escapeCharacters, if_neg alone]
            rfl
      | doubled =>
          refine ⟨template.prepend openingSymbol, ?_, characters_prepend _ _⟩
          rw [HasNames, names_prepend]
          exact named
      | placeholder name =>
          refine ⟨⟨("", String.ofList name) :: template.pieces, template.last⟩, ?_, ?_⟩
          · refine List.forall_mem_cons.mpr ⟨?_, named⟩
            rw [String.toList_ofList]
            exact isProper
          · have before : escapeCharacters "".toList = [] := rfl
            simp only [characters, List.flatMap_cons, pieceCharacters, Construct.written, before,
              String.toList_ofList, List.append_assoc, List.nil_append]

/-- What may be woven has the literals and names given, and nothing else. -/
theorem exists_weave? {literals names : List String}
    (oneMore : literals.length = names.length + 1) :
    ∃ template, weave? literals names = some template ∧ template.literals = literals ∧
      template.names = names := by
  induction names generalizing literals with
  | nil =>
      obtain ⟨last, rfl⟩ := List.length_eq_one_iff.mp oneMore
      exact ⟨⟨[], last⟩, rfl, rfl, rfl⟩
  | cons name rest inductiveHypothesis =>
      cases literals with
      | nil => cases oneMore
      | cons literal others =>
          obtain ⟨template, woven, rfl, rfl⟩ := inductiveHypothesis (Nat.succ.inj oneMore)
          refine ⟨⟨(literal, name) :: template.pieces, template.last⟩, ?_, rfl, rfl⟩
          have step : weave? (literal :: template.literals) (name :: template.names) =
              (weave? template.literals template.names).map fun rest =>
                ⟨(literal, name) :: rest.pieces, rest.last⟩ := by
            cases template.literals <;> rfl
          rw [step, woven]
          rfl

/-- The scanner reads the well-formed texts and no others, what it has read is
written as it was, and whatever is written with proper names is read as the
same literals and names; so no two texts are read as the same fragments. -/
theorem parse_inverts_print :
    (forall text : String,
      (∃ template, parse text = .ok template) ↔ IsWellFormed text.toList) ∧
    (forall (text : String) (template : Template), parse text = .ok template ->
      template.literals.length = template.names.length + 1 ∧
        ∃ woven, weave? template.literals template.names = some woven ∧
          printTexts woven.texts = text) ∧
    (forall literals names : List String, literals.length = names.length + 1 ->
      (forall name, name ∈ names -> IsName name.toList) ->
        ∃ woven, weave? literals names = some woven ∧
          ∃ template, parse (printTexts woven.texts) = .ok template ∧
            template.literals = literals ∧ template.names = names) ∧
    (forall (text other : String) (first second : Template), parse text = .ok first ->
      parse other = .ok second -> first.texts = second.texts -> text = other) := by
  have printed : forall {text : String} {template : Template}, parse text = .ok template ->
      printTexts template.texts = text := by
    intro text template done
    rw [← String.toList_inj, toList_printTexts]
    exact (characters_of_parse done).2
  refine ⟨fun text => ⟨?_, ?_⟩, ?_, ?_, ?_⟩
  · rintro ⟨template, done⟩
    obtain ⟨named, written⟩ := characters_of_parse done
    exact written ▸ named.isWellFormed
  · intro wellFormed
    obtain ⟨template, named, written⟩ := wellFormed.exists_template
    exact ⟨template, named.parse written⟩
  · intro text template done
    exact ⟨template.length_literals, template, template.weave?_literals_names, printed done⟩
  · intro literals names oneMore areNames
    obtain ⟨template, woven, sameLiterals, sameNames⟩ := exists_weave? oneMore
    have named : template.HasNames := by
      rw [HasNames, sameNames]
      exact areNames
    exact ⟨template, woven, template, named.parse (toList_printTexts template).symm, sameLiterals,
      sameNames⟩
  · intro text other first second firstDone secondDone same
    rw [← printed firstDone, ← printed secondDone, same]

/-- Doubled symbols before a placeholder, two placeholders with nothing
between them, and one at the end. -/
theorem parse_inverts_print_adjacentExample :
    IsWellFormed "$$${a}${b}".toList ∧
      ∃ template, parse "$$${a}${b}" = .ok template ∧ template.literals = ["$", "", ""] ∧
        template.names = ["a", "b"] := by
  have areNames : forall name, name ∈ ["a", "b"] -> IsName name.toList := by
    intro name member
    simp only [List.mem_cons, List.not_mem_nil, or_false] at member
    rcases member with rfl | rfl <;>
      exact isName_iff.mpr ⟨by decide, List.all_eq_true.mp (by decide)⟩
  obtain ⟨woven, weaves, template, done, literals, names⟩ :=
    parse_inverts_print.2.2.1 ["$", "", ""] ["a", "b"] rfl areNames
  cases weaves
  exact ⟨(parse_inverts_print.1 _).mp ⟨template, done⟩, template, done, literals, names⟩

end Template
end Stencil

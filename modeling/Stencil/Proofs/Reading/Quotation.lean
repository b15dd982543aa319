import Stencil.Proofs.Reading.Ending
import Stencil.Regex.Quote

namespace Stencil
namespace Regex

/-!
Reading texts that are made to be read.  The tokens of texts put together are
the tokens of the texts, unless one of them ends in a backslash.  A quoted
text reads as the literal characters of that text and nothing else, wherever
comments and blanks are not skipped, and the opening of a named group opens
that group.
-/

namespace Token

/-- The tokens of characters none of which is a backslash.  There is one for
each of them. -/
def plain (characters : List Char) : List Token :=
  characters.map fun character => ⟨false, character⟩

def quoted (character : Char) : Token :=
  ⟨specialCharacters.contains character, character⟩

theorem split_cons_of_ne {character : Char} (different : character ≠ '\\') (rest : List Char) :
    split (character :: rest) = (⟨false, character⟩ :: (split rest).1, (split rest).2) := by
  rw [split.eq_4]
  · rintro same
    exact absurd same different
  · rintro _ _ same
    exact absurd same different

theorem split_escaped (character : Char) (rest : List Char) :
    split ('\\' :: character :: rest) = (⟨true, character⟩ :: (split rest).1, (split rest).2) :=
  rfl

/-- A text that does not end in a single backslash is split apart from what
follows it. -/
theorem split_append {front : List Char} (whole : (split front).2 = false) (back : List Char) :
    split (front ++ back) = ((split front).1 ++ (split back).1, (split back).2) := by
  match front with
  | [] => rfl
  | [character] =>
      by_cases backslash : character = '\\'
      · subst backslash
        cases whole
      · rw [List.singleton_append, split_cons_of_ne backslash, split_cons_of_ne backslash]
        rfl
  | first :: second :: rest =>
      by_cases backslash : first = '\\'
      · subst backslash
        have wholeRest : (split rest).2 = false := whole
        have inner := split_append wholeRest back
        rw [List.cons_append, List.cons_append, split_escaped, split_escaped, inner]
        rfl
      · rw [split_cons_of_ne backslash] at whole
        have inner := split_append whole back
        rw [List.cons_append, split_cons_of_ne backslash, split_cons_of_ne backslash, inner]
        rfl

theorem split_plain {characters : List Char} (unescaped : '\\' ∉ characters) :
    split characters = (plain characters, false) := by
  induction characters with
  | nil => rfl
  | cons character rest inductiveHypothesis =>
      rw [List.mem_cons, not_or] at unescaped
      rw [split_cons_of_ne (Ne.symm unescaped.1), inductiveHypothesis unescaped.2]
      rfl

theorem split_quoteCharacters (characters : List Char) :
    split (quoteCharacters characters) = (characters.map quoted, false) := by
  induction characters with
  | nil => rfl
  | cons character rest inductiveHypothesis =>
      rw [quoteCharacters, List.map_cons]
      split
      · rename_i special
        rw [split_escaped, inductiveHypothesis, quoted, special]
      · rename_i ordinary
        have different : character ≠ '\\' := by
          rintro rfl
          exact ordinary rfl
        rw [split_cons_of_ne different, inductiveHypothesis, quoted, Bool.eq_false_iff.mpr ordinary]

end Token

/-- A backslash before a special character makes it stand for itself; none of
these has a meaning when it is escaped. -/
theorem Escape.begin_of_special {character : Char}
    (special : specialCharacters.contains character = true) :
    Escape.begin false character = .whole (.code character.toNat) := by
  have all : specialCharacters.all fun character =>
      Escape.begin false character == .whole (.code character.toNat) := by decide
  exact eq_of_beq (List.all_eq_true.mp all character (List.contains_iff_mem.mp special))

namespace Reading

/-- Between two items, where no parenthesis or bar is taken, nothing has to be
settled. -/
theorem take_item {position : Nat} {assembly : Assembly} {token : Token}
    (notBar : token.is '|' = false) (notClosing : token.is ')' = false) :
    take ⟨position, .item, assembly⟩ token =
      takeInExpression ⟨position + token.length, .item, assembly⟩ position token := by
  have allowed : refusal? ⟨position, .item, assembly⟩ (some token) = none := by
    simp only [refusal?, notBar, notClosing, Bool.false_and, Bool.false_eq_true, if_false]
  have settled : settle ⟨position, .item, assembly⟩ (some token) =
      .ok ⟨position, .item, assembly⟩ := settle_eq_ok_iff.mpr ⟨rfl, allowed⟩
  unfold take
  rw [settled]
  rfl

theorem is_quoted {character symbol : Char} (special : specialCharacters.contains symbol = true) :
    (Token.quoted character).is symbol = false := by
  unfold Token.is Token.quoted
  by_cases same : character = symbol
  · rw [same, special]
    rfl
  · rw [beq_eq_false_iff_ne.mpr same, Bool.and_false]

theorem take_quoted {position : Nat} {assembly : Assembly}
    (notVerbose : assembly.frame.verbose = false) (character : Char) :
    take ⟨position, .item, assembly⟩ (.quoted character) =
      .ok ⟨position + (Token.quoted character).length, .item,
        assembly.push (.literal false character.toNat)⟩ := by
  have notBar : (Token.quoted character).is '|' = false := is_quoted rfl
  have notClosing : (Token.quoted character).is ')' = false := is_quoted rfl
  rw [take_item notBar notClosing]
  unfold takeInExpression
  simp only [notBar, notClosing, notVerbose, Bool.false_and, Bool.false_eq_true, if_false]
  cases special : specialCharacters.contains character with
  | true =>
      simp only [Token.quoted, special, if_true, beginEscape, bne_self_eq_false]
      rw [Escape.begin_of_special special]
      rfl
  | false =>
      have different : forall symbol, specialCharacters.contains symbol = true ->
          character ≠ symbol := by
        rintro symbol isSpecial rfl
        rw [special] at isSpecial
        cases isSpecial
      simp only [Token.quoted, special, Bool.false_eq_true, if_false]
      split
      · exact absurd rfl (different '[' rfl)
      · exact absurd rfl (different '(' rfl)
      · exact absurd rfl (different '*' rfl)
      · exact absurd rfl (different '+' rfl)
      · exact absurd rfl (different '?' rfl)
      · exact absurd rfl (different '{' rfl)
      · exact absurd rfl (different '.' rfl)
      · exact absurd rfl (different '^' rfl)
      · exact absurd rfl (different '$' rfl)
      · rfl

/-- A quoted text is taken as its characters, with nothing to repeat and
nothing opened. -/
theorem takeAll_quoted (position : Nat) {assembly : Assembly}
    (notVerbose : assembly.frame.verbose = false) (characters : List Char) :
    ∃ stop, takeAll ⟨position, .item, assembly⟩ (characters.map .quoted) =
      .ok ⟨stop, .item, assembly.pushCharacters characters⟩ := by
  induction characters generalizing position assembly with
  | nil => exact ⟨position, rfl⟩
  | cons character rest inductiveHypothesis =>
      have pushed : (assembly.push (.literal false character.toNat)).frame.verbose = false :=
        notVerbose
      obtain ⟨stop, others⟩ := inductiveHypothesis _ pushed
      exact ⟨stop, takeAll_cons_eq_ok_iff.mpr ⟨_, take_quoted notVerbose character, others⟩⟩

/-- A parenthesis between two items begins something. -/
theorem take_parenthesis (position : Nat) (assembly : Assembly) :
    take ⟨position, .item, assembly⟩ ⟨false, '('⟩ =
      .ok ⟨position + 1, .opening position .parenthesis, assembly⟩ := by
  rw [take_item rfl rfl]
  have notBlank : Token.passes ⟨false, '('⟩ (fun c => Text.isAsciiBlank c.toNat) = false := rfl
  have notHash : Token.is ⟨false, '('⟩ '#' = false := rfl
  unfold takeInExpression
  simp only [notBlank, notHash, Bool.and_false, Bool.false_eq_true, if_false]
  rfl

/-- What an opening parenthesis begins goes on with a token. -/
theorem take_opening {position start : Nat} {opening : Opening} {assembly : Assembly} {token : Token}
    (goesOn : opening.goesOn token = true) :
    take ⟨position, .opening start opening, assembly⟩ token =
      takeSettled ⟨position, .opening start opening, assembly⟩ token := by
  have completed : complete ⟨position, .opening start opening, assembly⟩ (some token) =
      .ok ⟨position, .opening start opening, assembly⟩ := by
    unfold complete
    cases opening with
    | parenthesis => simp only [Option.any_some, goesOn, if_true]
    | _ => rfl
  have settled : settle ⟨position, .opening start opening, assembly⟩ (some token) =
      .ok ⟨position, .opening start opening, assembly⟩ :=
    settle_eq_ok_iff.mpr ⟨completed, rfl⟩
  unfold take
  rw [settled]
  rfl

theorem take_opening_further {position start : Nat} {opening further : Opening}
    {assembly : Assembly} {token : Token} (goesOn : opening.goesOn token = true)
    (outcome : opening.take token (position + token.length) = .ok (.inl further)) :
    take ⟨position, .opening start opening, assembly⟩ token =
      .ok ⟨position + token.length, .opening start further, assembly⟩ := by
  rw [take_opening goesOn]
  unfold takeSettled
  dsimp only
  rw [outcome]
  rfl

/-- The name of a group is taken as it is written, and then the group is
opened. -/
theorem takeAll_groupName {position start : Nat} {begun name : List Char} {assembly : Assembly}
    {later : Reading} (unclosed : '>' ∉ name)
    (done : takeAll ⟨position, .opening start (.groupName begun), assembly⟩
      (Token.plain (name ++ ['>'])) = .ok later) :
    ∃ stop opened, later = ⟨stop, .item, opened⟩ ∧
      assembly.openCapture (some (String.ofList (begun ++ name))) start = .ok opened := by
  induction name generalizing position begun with
  | nil =>
      obtain ⟨middle, taken, rest⟩ := takeAll_cons_eq_ok_iff.mp done
      cases rest
      rw [take_opening rfl] at taken
      obtain ⟨outcome, named, opening⟩ := Except.bind_eq_ok_iff.mp taken
      obtain ⟨found, ended, rfl⟩ := Except.map_eq_ok_iff.mp named
      have characters : found.characters = begun := by
        obtain ⟨whole, isName, identifier⟩ := Except.bind_eq_ok_iff.mp ended
        unfold Opening.endName at isName
        split at isName
        · cases isName
        · cases isName
          split at identifier
          · cases identifier
            rfl
          · cases identifier
      simp only [takeOpened, Option.map_some, Name.text, characters] at opening
      rw [List.append_nil]
      split at opening
      · rename_i opened captured
        cases opening
        exact ⟨_, opened, rfl, captured⟩
      · cases opening
  | cons character rest inductiveHypothesis =>
      rw [List.mem_cons, not_or] at unclosed
      obtain ⟨middle, taken, others⟩ := takeAll_cons_eq_ok_iff.mp done
      have differs : Token.is ⟨false, character⟩ '>' = false := by
        rw [Token.is, beq_eq_false_iff_ne.mpr (Ne.symm unclosed.1), Bool.and_false]
      have further : forall stop, (Opening.groupName begun).take ⟨false, character⟩ stop =
          .ok (.inl (.groupName (begun ++ [character]))) := by
        intro stop
        simp only [Opening.take, differs, Bool.false_eq_true, if_false]
        rfl
      obtain rfl := Except.ok.inj (taken.symm.trans (take_opening_further rfl (further _)))
      obtain ⟨stop, opened, same, done⟩ := inductiveHypothesis unclosed.2 others
      refine ⟨stop, opened, same, ?_⟩
      rw [List.append_assoc] at done
      exact done

/-- The opening of a named group opens it, under the name that is written. -/
theorem takeAll_named {position : Nat} {assembly : Assembly} {name : List Char} {later : Reading}
    (unclosed : '>' ∉ name)
    (done : takeAll ⟨position, .item, assembly⟩
      (Token.plain (['(', '?', 'P', '<'] ++ name ++ ['>'])) = .ok later) :
    ∃ stop opened, later = ⟨stop, .item, opened⟩ ∧
      assembly.openCapture (some (String.ofList name)) position = .ok opened := by
  rw [List.append_assoc] at done
  obtain ⟨first, parenthesis, afterFirst⟩ := takeAll_cons_eq_ok_iff.mp done
  obtain ⟨second, question, afterSecond⟩ := takeAll_cons_eq_ok_iff.mp afterFirst
  obtain ⟨third, extension, afterThird⟩ := takeAll_cons_eq_ok_iff.mp afterSecond
  obtain ⟨fourth, angle, afterFourth⟩ := takeAll_cons_eq_ok_iff.mp afterThird
  obtain rfl := Except.ok.inj (parenthesis.symm.trans (take_parenthesis _ _))
  obtain rfl := Except.ok.inj (question.symm.trans (take_opening_further rfl rfl))
  obtain rfl := Except.ok.inj (extension.symm.trans (take_opening_further rfl rfl))
  obtain rfl := Except.ok.inj (angle.symm.trans (take_opening_further rfl rfl))
  exact takeAll_groupName unclosed afterFourth

/-- A name that is an identifier ends. -/
theorem exists_endIdentifier {name : List Char} (identifier : Text.isIdentifier name = true)
    (stop : Nat) : ∃ found : Name, Opening.endIdentifier name stop = .ok found ∧
      found.characters = name := by
  cases name with
  | nil => cases identifier
  | cons first others =>
      refine ⟨⟨first :: others, stop - 1 - (first :: others).length⟩, ?_, rfl⟩
      simp only [Opening.endIdentifier, Opening.endName, List.isEmpty_cons, Bool.false_eq_true,
        if_false, bind, Except.bind, identifier, if_true, pure, Except.pure]

theorem exists_takeAll_groupName (position : Nat) {start : Nat} (begun : List Char)
    {name : List Char} {assembly opened : Assembly} (unclosed : '>' ∉ name)
    (identifier : Text.isIdentifier (begun ++ name) = true)
    (captured : assembly.openCapture (some (String.ofList (begun ++ name))) start = .ok opened) :
    ∃ stop, takeAll ⟨position, .opening start (.groupName begun), assembly⟩
      (Token.plain (name ++ ['>'])) = .ok ⟨stop, .item, opened⟩ := by
  induction name generalizing position begun with
  | nil =>
      rw [List.append_nil] at identifier captured
      rcases exists_endIdentifier identifier (position + 1) with ⟨found, ended, rfl⟩
      refine ⟨position + 1, takeAll_cons_eq_ok_iff.mpr ⟨_, ?_, rfl⟩⟩
      rw [take_opening rfl]
      refine Except.bind_eq_ok_iff.mpr ⟨.inr (.capture (some found)), ?_, ?_⟩
      · exact congrArg (Except.map _) ended
      · simp only [takeOpened, Option.map_some, Name.text, captured]
        rfl
  | cons character rest inductiveHypothesis =>
      rw [List.mem_cons, not_or] at unclosed
      rw [← List.singleton_append, ← List.append_assoc] at identifier captured
      have differs : Token.is ⟨false, character⟩ '>' = false := by
        rw [Token.is, beq_eq_false_iff_ne.mpr (Ne.symm unclosed.1), Bool.and_false]
      have further : forall stop, (Opening.groupName begun).take ⟨false, character⟩ stop =
          .ok (.inl (.groupName (begun ++ [character]))) := by
        intro stop
        simp only [Opening.take, differs, Bool.false_eq_true, if_false]
        rfl
      rcases inductiveHypothesis (position + 1) _ unclosed.2 identifier captured with
        ⟨stop, others⟩
      exact ⟨stop, takeAll_cons_eq_ok_iff.mpr ⟨_, take_opening_further rfl (further _), others⟩⟩

/-- A group whose name is an identifier can be opened if no other one has the
name. -/
theorem exists_takeAll_named {position : Nat} {assembly opened : Assembly} {name : List Char}
    (unclosed : '>' ∉ name) (identifier : Text.isIdentifier name = true)
    (captured : assembly.openCapture (some (String.ofList name)) position = .ok opened) :
    ∃ stop, takeAll ⟨position, .item, assembly⟩
      (Token.plain (['(', '?', 'P', '<'] ++ name ++ ['>'])) = .ok ⟨stop, .item, opened⟩ := by
  rcases exists_takeAll_groupName (position + 1 + 1 + 1 + 1) [] unclosed identifier captured with
    ⟨stop, named⟩
  refine ⟨stop, ?_⟩
  rw [List.append_assoc]
  refine takeAll_cons_eq_ok_iff.mpr ⟨_, take_parenthesis _ _, ?_⟩
  refine takeAll_cons_eq_ok_iff.mpr ⟨_, take_opening_further rfl rfl, ?_⟩
  refine takeAll_cons_eq_ok_iff.mpr ⟨_, take_opening_further rfl rfl, ?_⟩
  exact takeAll_cons_eq_ok_iff.mpr ⟨_, take_opening_further rfl rfl, named⟩

end Reading
end Regex
end Stencil

import Stencil.Proofs.Isolation.Scan
import Stencil.Proofs.Text.Line

namespace Stencil
namespace Isolation

/-!
The parts of a text, as the scan for groups sees them: escapes, character
classes, comments of both kinds, beginnings of groups, and characters that are
none of these.  `Part.StandsBefore` says when the scan meets a part, given the
text that follows it, without speaking of the scan.  The scan gets through a
text only if it is made up of parts (`continues_of_scan`), and it is in one
way only (`Meets.unique`), since the part that it begins with can be told from
the text (`firstPart`).
-/

/-- What the scan meets in a text, one after the other.  Each part knows all
of its characters, so that the text can be written from the parts. -/
inductive Part where
  /-- A character that begins nothing. -/
  | plain (character : Char)
  /-- A backslash and the character after it, which is missing at the end of the text. -/
  | escape (escaped : Option Char)
  /-- A character class, perhaps with `^` and a bracket that ends nothing before its content.  The
  content includes the bracket at its end. -/
  | charClass (negated bracket : Bool) (content : List Char)
  /-- A comment that a parenthesis ends. -/
  | comment (content : List Char)
  /-- A comment that the line ends, or the text. -/
  | lineComment (content : List Char) (closed : Bool)
  /-- A parenthesis and a question mark, where neither a comment nor a name begins. -/
  | extension
  /-- A parenthesis that begins a group without a name. -/
  | group
  /-- The beginning of a group with a name. -/
  | namedGroup (name : List Char)
  deriving DecidableEq, Repr

namespace Part

def classOpening : (negated bracket : Bool) -> List Char
  | false, false => ['[']
  | false, true => ['[', ']']
  | true, false => ['[', '^']
  | true, true => ['[', '^', ']']

def text : Part -> List Char
  | .plain character => [character]
  | .escape escaped => '\\' :: escaped.toList
  | .charClass negated bracket content => classOpening negated bracket ++ content
  | .comment content => ['(', '?', '#'] ++ content ++ [')']
  | .lineComment content closed => '#' :: content ++ (if closed then ['\n'] else [])
  | .extension => ['(', '?']
  | .group => ['(']
  | .namedGroup name => ['(', '?', 'P', '<'] ++ name ++ ['>']

end Part

/-- The text that the parts make up, which is the only thing that is told of
them to whoever scans it. -/
def written (parts : List Part) : List Char :=
  parts.flatMap Part.text

/-- The content of a class up to the first bracket that is not escaped, or to
the end of the text. -/
inductive IsClassContent (rest : List Char) : List Char -> Prop where
  | closed : IsClassContent rest [']']
  | unclosed (ends : rest = []) : IsClassContent rest []
  | cutOff (ends : rest = []) : IsClassContent rest ['\\']
  | escaped {character : Char} {content : List Char} (further : IsClassContent rest content) :
      IsClassContent rest ('\\' :: character :: content)
  | plain {character : Char} {content : List Char} (notBackslash : character ≠ '\\')
      (notBracket : character ≠ ']') (further : IsClassContent rest content) :
      IsClassContent rest (character :: content)

/-- The scan meets the part where this text follows it.  A part may not go on
with what follows, nor may it be taken for another one because of it. -/
def Part.StandsBefore (verbose : Bool) (rest : List Char) : Part -> Prop
  | .plain character => character ∉ ['\\', '[', '('] ∧ (verbose && character == '#') = false
  | .escape escaped => escaped = none -> rest = []
  | .charClass negated bracket content =>
      IsClassContent rest content ∧ (bracket = false -> content.head? ≠ some ']') ∧
        (bracket = false -> negated = false -> content.head? ≠ some '^')
  | .comment content => ')' ∉ content
  | .lineComment content closed =>
      verbose = true ∧ '\n' ∉ content ∧ (closed = false -> rest = [])
  | .extension => rest.head? ≠ some '#' ∧ ¬ ['P', '<'] <+: rest
  | .group => rest.head? ≠ some '?'
  | .namedGroup name => '>' ∉ name

/-- The scan meets each part before the text of those that follow it. -/
def AreMet (verbose : Bool) : List Part -> Prop
  | [] => True
  | part :: rest => part.StandsBefore verbose (written rest) ∧ AreMet verbose rest

/-- These are the parts that the scan meets in the text. -/
structure Meets (verbose : Bool) (text : List Char) (parts : List Part) : Prop where
  met : AreMet verbose parts
  whole : written parts = text

variable {verbose : Bool} {region : Region} {rest text : List Char} {part : Part} {parts : List Part}

theorem written_cons : written (part :: parts) = part.text ++ written parts :=
  rfl

theorem written_append {others : List Part} :
    written (parts ++ others) = written parts ++ written others :=
  List.flatMap_append

theorem Part.text_ne_nil : part.text ≠ [] := by
  cases part with
  | charClass negated bracket => cases negated <;> cases bracket <;> exact List.cons_ne_nil _ _
  | _ => exact List.cons_ne_nil _ _

/-- What follows the content of a class begins as the content does, if there
is any. -/
theorem IsClassContent.head?_append {content : List Char} (inside : IsClassContent rest content) :
    (content ++ rest).head? = content.head? := by
  cases inside with
  | unclosed ends =>
      subst ends
      rfl
  | _ => rfl

theorem AreMet.stands {front back : List Part} (met : AreMet verbose (front ++ part :: back)) :
    part.StandsBefore verbose (written back) := by
  induction front with
  | nil => exact met.1
  | cons _ _ inductiveHypothesis => exact inductiveHypothesis met.2

/-! ## Taking a text apart
-/

/-- From the region on, the text is the rest of a part and then further
parts. -/
def Region.Continues (verbose : Bool) (text : List Char) : Region -> Prop
  | .outside => ∃ parts, Meets verbose text parts
  | .inClass => ∃ content rest parts, content ++ rest = text ∧ IsClassContent rest content ∧
      Meets verbose rest parts
  | .lineComment => ∃ content closed rest parts,
      content ++ (if closed then ['\n'] else []) ++ rest = text ∧ '\n' ∉ content ∧
      (closed = false -> rest = []) ∧ Meets verbose rest parts
  | .comment => ∃ content rest parts, content ++ ')' :: rest = text ∧ ')' ∉ content ∧
      Meets verbose rest parts
  | .groupName => ∃ name rest parts, name ++ '>' :: rest = text ∧ '>' ∉ name ∧
      Meets verbose rest parts

theorem meets_nil : Meets verbose [] [] :=
  ⟨trivial, rfl⟩

theorem Meets.cons (part : Part) (stands : part.StandsBefore verbose rest) (meets : Meets verbose rest parts) :
    Meets verbose (part.text ++ rest) (part :: parts) := by
  rcases meets with ⟨met, rfl⟩
  exact ⟨⟨stands, met⟩, rfl⟩

namespace Region.Continues

theorem cons (part : Part) (stands : part.StandsBefore verbose rest)
    (further : Region.outside.Continues verbose rest) :
    Region.outside.Continues verbose (part.text ++ rest) := by
  rcases further with ⟨parts, meets⟩
  exact ⟨_, meets.cons part stands⟩

theorem charClass (negated bracket : Bool) (notBracket : bracket = false -> text.head? ≠ some ']')
    (notCaret : bracket = false -> negated = false -> text.head? ≠ some '^')
    (further : Region.inClass.Continues verbose text) :
    Region.outside.Continues verbose (Part.classOpening negated bracket ++ text) := by
  rcases further with ⟨content, rest, parts, rfl, inside, meets⟩
  rw [inside.head?_append] at notBracket notCaret
  rw [← List.append_assoc]
  exact ⟨_, meets.cons (.charClass negated bracket content) ⟨inside, notBracket, notCaret⟩⟩

theorem comment (further : Region.comment.Continues verbose text) :
    Region.outside.Continues verbose ('(' :: '?' :: '#' :: text) := by
  rcases further with ⟨content, rest, parts, rfl, unended, meets⟩
  have whole := meets.cons (.comment content) unended
  rw [Part.text, List.append_assoc, List.append_assoc] at whole
  exact ⟨_, whole⟩

theorem lineComment (isVerbose : verbose = true)
    (further : Region.lineComment.Continues verbose text) :
    Region.outside.Continues verbose ('#' :: text) := by
  rcases further with ⟨content, closed, rest, parts, rfl, unended, ends, meets⟩
  exact ⟨_, meets.cons (.lineComment content closed) ⟨isVerbose, unended, ends⟩⟩

theorem namedGroup (further : Region.groupName.Continues verbose text) :
    Region.outside.Continues verbose ('(' :: '?' :: 'P' :: '<' :: text) := by
  rcases further with ⟨name, rest, parts, rfl, unended, meets⟩
  have whole := meets.cons (.namedGroup name) unended
  rw [Part.text, List.append_assoc, List.append_assoc] at whole
  exact ⟨_, whole⟩

theorem outside_cons {character : Char} (other : character ∉ ['\\', '[', '('])
    (further : (if verbose && character == '#' then Region.lineComment else .outside).Continues
      verbose text) :
    Region.outside.Continues verbose (character :: text) := by
  split at further
  · rename_i begins
    rw [Bool.and_eq_true, beq_iff_eq] at begins
    rcases begins with ⟨isVerbose, rfl⟩
    exact lineComment isVerbose further
  · rename_i begins
    exact cons (.plain character) ⟨other, Bool.eq_false_iff.mpr begins⟩ further

theorem inClass_cons {character : Char} (notBackslash : character ≠ '\\')
    (further : (if character = ']' then Region.outside else .inClass).Continues verbose text) :
    Region.inClass.Continues verbose (character :: text) := by
  split at further
  · rename_i ends
    rcases further with ⟨parts, meets⟩
    exact ⟨[']'], text, parts, ends ▸ rfl, .closed, meets⟩
  · rename_i notBracket
    rcases further with ⟨content, rest, parts, rfl, inside, meets⟩
    exact ⟨character :: content, rest, parts, rfl, .plain notBackslash notBracket inside, meets⟩

theorem lineComment_cons {character : Char}
    (further : (if character = '\n' then Region.outside else .lineComment).Continues verbose text) :
    Region.lineComment.Continues verbose (character :: text) := by
  split at further
  · rename_i ends
    rcases further with ⟨parts, meets⟩
    exact ⟨[], true, text, parts, ends ▸ rfl, List.not_mem_nil, nofun, meets⟩
  · rename_i stays
    rcases further with ⟨content, closed, rest, parts, rfl, unended, ends, meets⟩
    exact ⟨character :: content, closed, rest, parts, rfl,
      List.not_mem_cons_of_ne_of_not_mem (Ne.symm stays) unended, ends, meets⟩

theorem comment_cons {character : Char}
    (further : (if character = ')' then Region.outside else .comment).Continues verbose text) :
    Region.comment.Continues verbose (character :: text) := by
  split at further
  · rename_i ends
    rcases further with ⟨parts, meets⟩
    exact ⟨[], text, parts, ends ▸ rfl, List.not_mem_nil, meets⟩
  · rename_i stays
    rcases further with ⟨content, rest, parts, rfl, unended, meets⟩
    exact ⟨character :: content, rest, parts, rfl, List.not_mem_cons_of_ne_of_not_mem (Ne.symm stays) unended,
      meets⟩

theorem groupName_cons {character : Char} (stays : character ≠ '>')
    (further : Region.groupName.Continues verbose text) :
    Region.groupName.Continues verbose (character :: text) := by
  rcases further with ⟨name, rest, parts, rfl, unended, meets⟩
  exact ⟨character :: name, rest, parts, rfl,
    List.not_mem_cons_of_ne_of_not_mem (Ne.symm stays) unended, meets⟩

end Region.Continues

theorem head?_ne_of_forall {character : Char}
    (other : forall others, text = character :: others -> False) : text.head? ≠ some character :=
  fun begins => (List.head?_eq_some_iff.mp begins).elim other

/-- A backslash is either the last character or it escapes one. -/
theorem ne_backslash_of_forall {character : Char} (lone : character = '\\' -> text = [] -> False)
    (escapes : forall next others, character = '\\' -> text = next :: others -> False) :
    character ≠ '\\' := by
  intro same
  cases text with
  | nil => exact lone same rfl
  | cons next others => exact escapes next others same rfl

open Region.Continues in
/-- What the scan gets through is made up of parts.  This goes by induction
over the scan, from every region that it may be in. -/
theorem continues_of_scan (done : (withoutCapturesFrom? verbose region text).isSome = true) :
    region.Continues verbose text := by
  fun_induction withoutCapturesFrom? verbose region text with try rw [Option.isSome_map] at done
  | case1 => exact ⟨[], meets_nil⟩
  | case2 => exact ⟨_, meets_nil.cons (.escape none) fun _ => rfl⟩
  | case3 _ _ further => exact cons (.escape (some _)) nofun (further done)
  | case4 _ further => exact charClass true true nofun nofun (further done)
  | case5 _ notBracket further =>
      exact charClass true false (fun _ => head?_ne_of_forall notBracket) nofun (further done)
  | case6 _ further => exact charClass false true nofun nofun (further done)
  | case7 _ _ notCaret notBracket further =>
      exact charClass false false
        (fun _ => head?_ne_of_forall notBracket) (fun _ _ => head?_ne_of_forall notCaret)
        (further done)
  | case8 _ further => exact namedGroup (further done)
  | case9 _ further => exact comment (further done)
  | case10 _ noName noComment further =>
      exact cons .extension
        ⟨head?_ne_of_forall noComment, fun ⟨others, same⟩ => noName others same.symm⟩ (further done)
  | case11 _ _ _ noQuestion further => exact cons .group (head?_ne_of_forall noQuestion) (further done)
  | case12 _ _ loneBackslash backslash _ _ _ bracket _ _ _ parenthesis _ further =>
      refine outside_cons ?_ (further done)
      simp only [List.mem_cons, List.not_mem_nil, or_false, not_or]
      exact ⟨ne_backslash_of_forall loneBackslash backslash, bracket, parenthesis⟩
  | case13 => exact ⟨[], [], [], rfl, .unclosed rfl, meets_nil⟩
  | case14 => exact ⟨['\\'], [], [], rfl, .cutOff rfl, meets_nil⟩
  | case15 character _ further =>
      rcases further done with ⟨content, rest, parts, rfl, inside, meets⟩
      exact ⟨'\\' :: character :: content, rest, parts, rfl, .escaped inside, meets⟩
  | case16 _ _ loneBackslash backslash _ further =>
      exact inClass_cons (ne_backslash_of_forall loneBackslash backslash) (further done)
  | case17 => exact ⟨[], false, [], [], rfl, List.not_mem_nil, fun _ => rfl, meets_nil⟩
  | case18 _ _ _ further => exact lineComment_cons (further done)
  | case19 => cases done
  | case20 _ _ _ further => exact comment_cons (further done)
  | case21 => cases done
  | case22 rest further =>
      rcases further done with ⟨parts, meets⟩
      exact ⟨[], rest, parts, rfl, List.not_mem_nil, meets⟩
  | case23 _ _ stays further => exact groupName_cons stays (further done)

/-! ## There is only one way of taking a text apart
-/

/-- The text up to the first bracket that is not escaped. -/
def classContent : List Char -> List Char
  | [] => []
  | ['\\'] => ['\\']
  | '\\' :: character :: rest => '\\' :: character :: classContent rest
  | character :: rest => if character = ']' then [character] else character :: classContent rest

/-- The part that a text can only begin with, if the scan meets one.  It is a
function of the text, which makes the parts unique. -/
def firstPart (verbose : Bool) : List Char -> Part
  | '\\' :: rest => .escape rest.head?
  | '[' :: '^' :: ']' :: rest => .charClass true true (classContent rest)
  | '[' :: '^' :: rest => .charClass true false (classContent rest)
  | '[' :: ']' :: rest => .charClass false true (classContent rest)
  | '[' :: rest => .charClass false false (classContent rest)
  | '(' :: '?' :: '#' :: rest => .comment (rest.takeWhile (· != ')'))
  | '(' :: '?' :: 'P' :: '<' :: rest => .namedGroup (rest.takeWhile (· != '>'))
  | '(' :: '?' :: _ => .extension
  | '(' :: _ => .group
  | character :: rest =>
      if verbose && character == '#' then
        .lineComment (rest.takeWhile (· != '\n')) (rest.contains '\n')
      else .plain character
  | [] => .group

theorem classContent_append {content : List Char} (inside : IsClassContent rest content) :
    classContent (content ++ rest) = content := by
  induction inside with
  | closed => simp [classContent]
  | unclosed ends | cutOff ends =>
      subst ends
      rfl
  | escaped _ inductiveHypothesis =>
      rw [List.cons_append, List.cons_append, classContent, inductiveHypothesis]
  | plain notBackslash notBracket _ inductiveHypothesis =>
      simp [classContent, notBackslash, notBracket, inductiveHypothesis]

theorem firstPart_charClass {negated bracket : Bool} {content : List Char}
    (notBracket : bracket = false -> text.head? ≠ some ']')
    (notCaret : bracket = false -> negated = false -> text.head? ≠ some '^')
    (same : classContent text = content) :
    firstPart verbose (Part.classOpening negated bracket ++ text) = .charClass negated bracket content := by
  subst same
  cases bracket with
  | true => cases negated <;> rfl
  | false =>
      have noBracket : forall others, text ≠ ']' :: others := by
        rintro _ rfl
        exact notBracket rfl rfl
      cases negated with
      | false =>
          have noCaret : forall others, text ≠ '^' :: others := by
            rintro _ rfl
            exact notCaret rfl rfl rfl
          simp [Part.classOpening, firstPart, noCaret]
      | true => simp [Part.classOpening, firstPart]

/-- A part that is met can be told from the text. -/
theorem Part.StandsBefore.firstPart (stands : part.StandsBefore verbose rest) :
    firstPart verbose (part.text ++ rest) = part := by
  cases part with
  | plain character =>
      rcases stands with ⟨other, noComment⟩
      simp only [List.mem_cons, List.not_mem_nil, or_false, not_or] at other
      simp [Part.text, Isolation.firstPart, other, noComment]
  | escape escaped =>
      cases escaped with
      | none =>
          rw [stands rfl]
          rfl
      | some character => rfl
  | charClass negated bracket content =>
      rcases stands with ⟨inside, notBracket, notCaret⟩
      rw [← inside.head?_append] at notBracket notCaret
      rw [Part.text, List.append_assoc]
      exact firstPart_charClass notBracket notCaret (classContent_append inside)
  | comment content =>
      rw [Part.text, List.append_assoc, List.append_assoc]
      exact congrArg Part.comment (Text.takeWhile_ended stands)
  | lineComment content closed =>
      rcases stands with ⟨rfl, unended, ends⟩
      cases closed with
      | false =>
          rw [ends rfl]
          simp [Part.text, Isolation.firstPart, Text.takeWhile_unended unended, unended]
      | true => simp [Part.text, Isolation.firstPart, Text.takeWhile_ended unended]
  | extension =>
      have noComment : forall others, rest ≠ '#' :: others := by
        rintro _ rfl
        exact stands.1 rfl
      have noName : forall others, rest ≠ 'P' :: '<' :: others := by
        rintro others rfl
        exact stands.2 ⟨others, rfl⟩
      exact Isolation.firstPart.eq_8 verbose rest noComment noName
  | group =>
      have noQuestion : forall others, rest ≠ '?' :: others := by
        rintro _ rfl
        exact stands rfl
      simp [Part.text, Isolation.firstPart, noQuestion]
  | namedGroup name =>
      rw [Part.text, List.append_assoc, List.append_assoc]
      exact congrArg Part.namedGroup (Text.takeWhile_ended stands)

/-- The scan meets the same parts however they are told apart, so the parts of
a text may be spoken of. -/
theorem Meets.unique {others : List Part} (meets : Meets verbose text parts)
    (meetsToo : Meets verbose text others) : parts = others := by
  rcases meets with ⟨met, rfl⟩
  rcases meetsToo with ⟨metToo, same⟩
  induction parts generalizing others with
  | nil =>
      cases others with
      | nil => rfl
      | cons other others => exact absurd (List.append_eq_nil_iff.mp same).1 Part.text_ne_nil
  | cons part rest inductiveHypothesis =>
      cases others with
      | nil => exact absurd (List.append_eq_nil_iff.mp same.symm).1 Part.text_ne_nil
      | cons other others =>
          rw [written_cons, written_cons] at same
          have first : part = other := by
            rw [← met.1.firstPart, ← metToo.1.firstPart, same]
          subst first
          rw [inductiveHypothesis met.2 metToo.2 (List.append_cancel_left same)]

end Isolation
end Stencil

import Stencil.Isolation.LeadingFlags
import Stencil.Proofs.Isolation.Step
import Stencil.Proofs.Reading.Flagging

namespace Stencil
namespace Regex

/-!
Reading flags at the beginning of an expression.  Letters in a group of their
own set flags for the whole expression, and the same letters before a colon
set them for a group, whether or not letters are repeated and groups follow
one another.
-/

namespace Flags

def ofLetter (letter : Char) : Flags :=
  (ofLetter? letter).getD {}

def ofLetters (letters : List Char) : Flags :=
  letters.foldr (fun letter flags => (ofLetter letter).union flags) {}

theorem ofLetters_append (first second : List Char) :
    ofLetters (first ++ second) = (ofLetters first).union (ofLetters second) := by
  induction first with
  | nil => exact (none_union _).symm
  | cons letter rest inductiveHypothesis =>
      exact (congrArg (ofLetter letter).union inductiveHypothesis).trans (union_assoc _ _ _).symm

/-- A flag is set by letters if one of them sets it.  This holds of each flag
for itself, given by its field. -/
theorem ofLetters_eq_any (flag : Flags -> Bool) (unset : flag {} = false)
    (either : forall first second, flag (first.union second) = (flag first || flag second))
    (letters : List Char) : flag (ofLetters letters) = letters.any fun letter =>
      flag (ofLetter letter) := by
  induction letters with
  | nil => exact unset
  | cons letter rest inductiveHypothesis =>
      have first : flag (ofLetters (letter :: rest)) =
          (flag (ofLetter letter) || flag (ofLetters rest)) := either _ _
      rw [first, inductiveHypothesis, List.any_cons]

theorem any_eraseDups (letters : List Char) (test : Char -> Bool) :
    letters.eraseDups.any test = letters.any test := by
  rw [Bool.eq_iff_iff, List.any_eq_true, List.any_eq_true]
  simp only [List.mem_eraseDups]

/-- Letters may as well not be repeated: a flag that is set again stays
set. -/
theorem ofLetters_eraseDups (letters : List Char) :
    ofLetters letters.eraseDups = ofLetters letters := by
  have same : forall flag : Flags -> Bool, flag {} = false ->
      (forall first second, flag (first.union second) = (flag first || flag second)) ->
      flag (ofLetters letters.eraseDups) = flag (ofLetters letters) := by
    intro flag unset either
    rw [ofLetters_eq_any flag unset either, ofLetters_eq_any flag unset either, any_eraseDups]
  have ignoreCase := same ignoreCase rfl fun _ _ => rfl
  have multiline := same multiline rfl fun _ _ => rfl
  have dotAll := same dotAll rfl fun _ _ => rfl
  have verbose := same verbose rfl fun _ _ => rfl
  have ascii := same ascii rfl fun _ _ => rfl
  have unicode := same unicode rfl fun _ _ => rfl
  have unrepeated := same unrepeated rfl fun _ _ => rfl
  rcases left : ofLetters letters.eraseDups with ⟨_, _, _, _, _, _, _⟩
  rcases right : ofLetters letters with ⟨_, _, _, _, _, _, _⟩
  simp only [left, right] at ignoreCase multiline dotAll verbose ascii unicode unrepeated
  rw [ignoreCase, multiline, dotAll, verbose, ascii, unicode, unrepeated]

theorem verbose_ofLetters (letters : List Char) :
    (ofLetters letters).verbose = letters.contains 'x' := by
  have letter : forall letter, (ofLetter letter).verbose = ('x' == letter) := by
    intro letter
    unfold ofLetter ofLetter?
    split
    · rfl
    · rfl
    · rfl
    · rfl
    · rfl
    · rfl
    · rfl
    · rename_i different _ _ _
      exact (beq_eq_false_iff_ne.mpr fun same => different same.symm).symm
  rw [ofLetters_eq_any verbose rfl fun _ _ => rfl, List.contains_eq_any_beq]
  simp only [letter]

end Flags

open Isolation (isLeadingFlag flagGroup? splitFlags groupLeadingFlags withoutCapturesFrom?)

def flagGroup (letters : List Char) : List Char :=
  '(' :: '?' :: (letters ++ [')'])

def Flags.ending (flags : Flags) : List Char :=
  (if flags.verbose then ['\n'] else []) ++ [')']

theorem Flags.mem_ending {flags : Flags} {character : Char} (member : character ∈ flags.ending) :
    character ∈ [')', '\n'] := by
  unfold ending at member
  rcases List.mem_append.mp member with newLine | closing
  · split at newLine
    · cases List.mem_singleton.mp newLine
      decide
    · cases newLine
  · cases List.mem_singleton.mp closing
    decide

theorem Opening.turnOn_eq_ok {added flags : Flags} {letter : Char} {stop : Nat}
    (done : turnOn added letter stop = .ok flags) : flags = added.union (.ofLetter letter) := by
  unfold turnOn at done
  rcases found : Flags.ofLetter? letter with _ | flag
  · rw [found] at done
    cases done
  · rw [found] at done
    dsimp only at done
    split at done
    · cases done
    · cases done
      rw [Flags.ofLetter, found]
      rfl

/-- A letter that may stand in a leading flag group is one of the letters of
flags, of which there is one more. -/
theorem Opening.isFlagLetter_eq (letter : Char) :
    isFlagLetter letter = (isLeadingFlag letter || letter == 't') := by
  unfold isFlagLetter Flags.ofLetter?
  split <;> try rfl
  rename_i notI notM notS notX notA notU notT
  have leading : isLeadingFlag letter = (letter == 'L') := by
    simp only [isLeadingFlag, List.contains_cons, List.contains_nil, Bool.or_false,
      beq_eq_false_iff_ne.mpr notI, beq_eq_false_iff_ne.mpr notM, beq_eq_false_iff_ne.mpr notS,
      beq_eq_false_iff_ne.mpr notX, beq_eq_false_iff_ne.mpr notA, beq_eq_false_iff_ne.mpr notU,
      Bool.false_or]
  rw [leading, beq_eq_false_iff_ne.mpr notT]
  rfl

theorem all_isFlagLetter {letters : List Char} (leading : letters.all isLeadingFlag = true) :
    letters.all Opening.isFlagLetter = true := by
  rw [List.all_eq_true] at leading ⊢
  intro letter member
  rw [Opening.isFlagLetter_eq, leading letter member]
  rfl

/-- The letters of flags are those that flags go on with. -/
theorem Opening.take_flagLetter {letter : Char} (isFlag : isFlagLetter letter = true)
    (added : Flags) (stop : Nat) :
    question.take ⟨false, letter⟩ stop =
        (turnOn {} letter stop).map (fun flags => .inl (.flagsOn flags)) ∧
      (flagsOn added).take ⟨false, letter⟩ stop =
        (turnOn added letter stop).map fun flags => .inl (.flagsOn flags) := by
  rw [isFlagLetter_eq, Bool.or_eq_true, beq_iff_eq] at isFlag
  rcases isFlag with leading | rfl
  · have member : letter ∈ ['a', 'i', 'L', 'm', 's', 'u', 'x'] := List.contains_iff_mem.mp leading
    simp only [List.mem_cons, List.not_mem_nil, or_false] at member
    rcases member with rfl | rfl | rfl | rfl | rfl | rfl | rfl <;> exact ⟨rfl, rfl⟩
  · exact ⟨rfl, rfl⟩

theorem Opening.take_leadingFlag {letter : Char} (leading : isLeadingFlag letter = true)
    (added : Flags) (stop : Nat) :
    question.take ⟨false, letter⟩ stop =
        (turnOn {} letter stop).map (fun flags => .inl (.flagsOn flags)) ∧
      (flagsOn added).take ⟨false, letter⟩ stop =
        (turnOn added letter stop).map fun flags => .inl (.flagsOn flags) :=
  take_flagLetter (by rw [isFlagLetter_eq, leading, Bool.true_or]) added stop

/-- A flag group is written with a letter at least, and its flags end with a
parenthesis. -/
theorem flagGroup?_eq_some {text letters after : List Char}
    (group : flagGroup? text = some (letters, after)) :
    letters ≠ [] ∧ letters.all isLeadingFlag = true ∧
      text = '(' :: '?' :: (letters ++ ')' :: after) := by
  unfold flagGroup? at group
  split at group
  · rename_i rest
    have parts := List.takeWhile_append_dropWhile (p := isLeadingFlag) (l := rest)
    split at group
    · cases group
    · rename_i following begun
      cases group
      rw [following] at parts
      exact ⟨begun, List.all_takeWhile, congrArg ('(' :: '?' :: ·) parts.symm⟩
    · cases group
  · cases group

theorem flagGroup?_flagGroup {letters : List Char} (rest : List Char) (nonempty : letters ≠ [])
    (leading : letters.all isLeadingFlag = true) :
    flagGroup? (flagGroup letters ++ rest) = some (letters, rest) := by
  have written : flagGroup letters ++ rest = '(' :: '?' :: (letters ++ ')' :: rest) := by
    simp only [flagGroup, List.cons_append, List.append_assoc, List.nil_append]
  have each := List.all_eq_true.mp leading
  have taken : (letters ++ ')' :: rest).takeWhile isLeadingFlag = letters :=
    (List.takeWhile_append_of_pos each).trans (List.append_nil letters)
  have dropped : (letters ++ ')' :: rest).dropWhile isLeadingFlag = ')' :: rest :=
    List.dropWhile_append_of_pos each
  rw [written, flagGroup?, taken, dropped]
  cases letters with
  | nil => exact absurd rfl nonempty
  | cons letter others => rfl

/-- The leading flags are those of the flag groups that the text begins
with. -/
theorem splitFlags_eq {text letters body : List Char} (split : splitFlags text = (letters, body)) :
    ∃ groups : List (List Char), (forall group, group ∈ groups ->
        group ≠ [] ∧ group.all isLeadingFlag = true) ∧
      letters = groups.flatten ∧ text = groups.flatMap flagGroup ++ body := by
  fun_induction splitFlags text generalizing letters with
  | case1 text noGroup =>
      cases split
      exact ⟨[], nofun, rfl, rfl⟩
  | case2 text first after begins more rest further inductiveHypothesis =>
      cases split
      rcases inductiveHypothesis further with ⟨groups, leading, rfl, rfl⟩
      rcases flagGroup?_eq_some begins with ⟨nonempty, firstLeading, rfl⟩
      refine ⟨first :: groups, List.forall_mem_cons.mpr ⟨⟨nonempty, firstLeading⟩, leading⟩, rfl, ?_⟩
      simp only [List.flatMap_cons, flagGroup, List.cons_append, List.append_assoc, List.nil_append]

theorem groupLeadingFlags_of_splitFlags {text body : List Char} (split : splitFlags text = ([], body)) :
    groupLeadingFlags text = text := by
  unfold groupLeadingFlags
  rw [split]

theorem all_of_splitFlags {text letters body : List Char}
    (split : splitFlags text = (letters, body)) : letters.all isLeadingFlag = true := by
  rcases splitFlags_eq split with ⟨groups, leading, rfl, _⟩
  rw [List.all_flatten, List.all_eq_true]
  exact fun group member => (leading group member).2

theorem eraseDups_ne_nil {letters : List Char} (nonempty : letters ≠ []) : letters.eraseDups ≠ [] := by
  cases letters with
  | nil => exact absurd rfl nonempty
  | cons letter others =>
      rw [List.eraseDups_cons]
      exact List.cons_ne_nil _ _

theorem all_eraseDups_of_splitFlags {text letters body : List Char}
    (split : splitFlags text = (letters, body)) : letters.eraseDups.all isLeadingFlag = true := by
  rw [List.all_eq_true]
  intro letter member
  exact List.all_eq_true.mp (all_of_splitFlags split) letter (List.mem_eraseDups.mp member)

/-- A character that means nothing to the scan is copied, and so is a text of
such characters. -/
theorem scan_inert {verbose : Bool} {text : List Char} (rest : List Char)
    (inert : forall character, character ∈ text -> character ∉ '\\' :: marks) :
    withoutCapturesFrom? verbose .outside (text ++ rest) =
      (withoutCapturesFrom? verbose .outside rest).map (text ++ ·) := by
  induction text with
  | nil => exact Option.map_id.symm ▸ rfl
  | cons character others inductiveHypothesis =>
      have first := inert character List.mem_cons_self
      simp only [marks, List.mem_cons, List.not_mem_nil, or_false, not_or] at first
      have notHash : (verbose && character == '#') = false := by
        rw [beq_eq_false_iff_ne.mpr first.2.1, Bool.and_false]
      rw [List.cons_append, Isolation.scan_outside first.1 first.2.2.1 first.2.2.2.1, notHash,
        if_neg Bool.false_ne_true,
        inductiveHypothesis fun other member => inert other (List.mem_cons_of_mem _ member),
        Option.map_map]
      rfl

theorem scan_flagged {verbose : Bool} {letters : List Char} (rest : List Char)
    (leading : letters.all isLeadingFlag = true) :
    withoutCapturesFrom? verbose .outside ('(' :: '?' :: (letters ++ ':' :: rest)) =
      (withoutCapturesFrom? verbose .outside rest).map
        ('(' :: '?' :: (letters ++ [':']) ++ ·) := by
  have text : letters ++ ':' :: rest = (letters ++ [':']) ++ rest := by
    rw [List.append_assoc, List.singleton_append]
  have written : forall character, character ∈ letters ++ [':'] ->
      isLeadingFlag character = true ∨ character = ':' := by
    intro character member
    rcases List.mem_append.mp member with letter | colon
    · exact .inl (List.all_eq_true.mp leading character letter)
    · exact .inr (List.mem_singleton.mp colon)
  have inert : forall character, character ∈ letters ++ [':'] ->
      character ∉ 'P' :: '\\' :: marks := by
    intro character member outside
    have apart : ('P' :: '\\' :: marks).all (fun mark => !(isLeadingFlag mark || mark == ':')) = true :=
      rfl
    have excluded := List.all_eq_true.mp apart character outside
    rcases written character member with leads | rfl
    · rw [leads] at excluded
      cases excluded
    · cases excluded
  have begins : forall character, (letters ++ ':' :: rest).head? = some character ->
      character ∉ 'P' :: '\\' :: marks := by
    intro character head
    apply inert
    cases letters with
    | nil =>
        cases head
        exact List.mem_cons_self
    | cons letter others =>
        cases head
        exact List.mem_cons_self
  rw [Isolation.scan_extension, text,
    scan_inert rest fun character member other =>
      inert character member (List.mem_cons_of_mem _ other), Option.map_map]
  · rfl
  · exact fun head => begins _ head (by decide)
  · rintro ⟨others, starts⟩
    exact begins 'P' (congrArg List.head? starts).symm List.mem_cons_self

/-- An expression with leading flags is written in a group that sets them,
each once. -/
theorem groupLeadingFlags_eq {text letters body : List Char}
    (split : splitFlags text = (letters, body)) (begins : letters ≠ []) :
    groupLeadingFlags text =
      ('(' :: '?' :: letters.eraseDups ++ [':']) ++ (body ++ (Flags.ofLetters letters).ending) := by
  unfold groupLeadingFlags
  rw [split, Flags.ending, Flags.verbose_ofLetters]
  cases letters with
  | nil => exact absurd rfl begins
  | cons letter others => simp only [List.append_assoc, List.cons_append, List.nil_append]

/-- What the scan makes of an expression with leading flags: the letters of
the group are copied, and the body is scanned with what closes the group
behind it. -/
theorem scan_groupLeadingFlags {verbose : Bool} {text letters body : List Char}
    (split : splitFlags text = (letters, body)) (begins : letters ≠ []) :
    withoutCapturesFrom? verbose .outside (groupLeadingFlags text) =
      (withoutCapturesFrom? verbose .outside (body ++ (Flags.ofLetters letters).ending)).map
        ('(' :: '?' :: (letters.eraseDups ++ [':']) ++ ·) := by
  rw [groupLeadingFlags_eq split begins, ← scan_flagged _ (all_eraseDups_of_splitFlags split)]
  simp only [List.append_assoc, List.cons_append, List.nil_append]

theorem Assembly.setFlags_setFlags (assembly : Assembly) (first second : Flags) :
    (assembly.setFlags first).setFlags second = assembly.setFlags (first.union second) := by
  unfold setFlags
  dsimp only
  rw [Flags.union_assoc]

theorem Assembly.setFlags_none {assembly : Assembly}
    (whole : assembly.frame.verbose = assembly.flags.verbose) : assembly.setFlags {} = assembly := by
  unfold setFlags
  dsimp only
  rw [Flags.union_none, ← whole]

namespace Reading

variable {position start : Nat} {assembly : Assembly} {later : Reading} {letter : Char}
  {letters : List Char}

theorem take_flag {opening : Opening} {added : Flags}
    (goesOn : opening.goesOn ⟨false, letter⟩ = true)
    (turnsOn : forall stop, opening.take ⟨false, letter⟩ stop =
      (Opening.turnOn added letter stop).map fun flags => .inl (.flagsOn flags))
    (done : take ⟨position, .opening start opening, assembly⟩ ⟨false, letter⟩ = .ok later) :
    later =
      ⟨position + 1, .opening start (.flagsOn (added.union (.ofLetter letter))), assembly⟩ := by
  rw [take_opening goesOn] at done
  rcases Except.bind_eq_ok_iff.mp done with ⟨outcome, decided, rest⟩
  rw [turnsOn] at decided
  rcases Except.map_eq_ok_iff.mp decided with ⟨flags, turned, rfl⟩
  cases Opening.turnOn_eq_ok turned
  cases rest
  rfl

theorem takeAll_flagsOn {added : Flags} (flags : letters.all Opening.isFlagLetter = true)
    (done : takeAll ⟨position, .opening start (.flagsOn added), assembly⟩ (Token.plain letters) =
      .ok later) :
    ∃ stop, later =
      ⟨stop, .opening start (.flagsOn (added.union (.ofLetters letters))), assembly⟩ := by
  induction letters generalizing position added with
  | nil =>
      cases done
      exact ⟨position, by rw [Flags.ofLetters, List.foldr_nil, Flags.union_none]⟩
  | cons letter rest inductiveHypothesis =>
      rw [List.all_cons, Bool.and_eq_true] at flags
      rcases takeAll_cons_eq_ok_iff.mp done with ⟨middle, first, others⟩
      have turnsOn := fun stop => (Opening.take_flagLetter flags.1 added stop).2
      cases take_flag rfl turnsOn first
      rcases inductiveHypothesis flags.2 others with ⟨stop, same⟩
      rw [Flags.union_assoc] at same
      exact ⟨stop, same⟩

/-- Between two items, a parenthesis, a question mark and letters are the
beginning of flags. -/
theorem takeAll_flags (nonempty : letters ≠ []) (flags : letters.all Opening.isFlagLetter = true)
    (done : takeAll ⟨position, .item, assembly⟩ (Token.plain ('(' :: '?' :: letters)) = .ok later) :
    ∃ stop, later = ⟨stop, .opening position (.flagsOn (.ofLetters letters)), assembly⟩ := by
  rcases takeAll_cons_eq_ok_iff.mp done with ⟨first, parenthesis, afterFirst⟩
  rcases takeAll_cons_eq_ok_iff.mp afterFirst with ⟨second, question, afterSecond⟩
  cases (take_parenthesis position assembly).symm.trans parenthesis
  cases (take_opening_further rfl rfl).symm.trans question
  cases letters with
  | nil => exact absurd rfl nonempty
  | cons letter rest =>
      rw [List.all_cons, Bool.and_eq_true] at flags
      rcases takeAll_cons_eq_ok_iff.mp afterSecond with ⟨middle, turned, others⟩
      have turnsOn := fun stop => (Opening.take_flagLetter flags.1 {} stop).1
      cases take_flag rfl turnsOn turned
      rw [Flags.none_union] at others
      exact takeAll_flagsOn flags.2 others

theorem takeAll_flagGroup (nonempty : letters ≠ []) (flags : letters.all Opening.isFlagLetter = true)
    (done : takeAll ⟨position, .item, assembly⟩ (Token.plain (flagGroup letters)) = .ok later) :
    ∃ stop, later = ⟨stop, .item, assembly.setFlags (.ofLetters letters)⟩ := by
  have tokens : Token.plain (flagGroup letters) =
      Token.plain ('(' :: '?' :: letters) ++ [⟨false, ')'⟩] := by
    simp only [flagGroup, Token.plain, List.map_cons, List.map_append, List.map_nil,
      List.cons_append]
  rw [tokens] at done
  rcases takeAll_append_eq_ok_iff.mp done with ⟨middle, begun, closes⟩
  rcases takeAll_flags nonempty flags begun with ⟨stop, rfl⟩
  rcases takeAll_cons_eq_ok_iff.mp closes with ⟨last, taken, ends⟩
  cases ends
  rw [take_opening rfl] at taken
  rcases Except.bind_eq_ok_iff.mp taken with ⟨outcome, decided, opening⟩
  cases decided
  simp only [takeOpened] at opening
  split at opening
  · cases opening
    exact ⟨_, rfl⟩
  · cases opening

/-- The flags of several groups are set one after the other. -/
theorem takeAll_flagGroups {groups : List (List Char)}
    (whole : assembly.frame.verbose = assembly.flags.verbose)
    (leading : forall group, group ∈ groups -> group ≠ [] ∧ group.all isLeadingFlag = true)
    (done : takeAll ⟨position, .item, assembly⟩ (Token.plain (groups.flatMap flagGroup)) =
      .ok later) :
    ∃ stop, later = ⟨stop, .item, assembly.setFlags (.ofLetters groups.flatten)⟩ := by
  induction groups generalizing position assembly with
  | nil =>
      cases done
      exact ⟨position, by rw [List.flatten_nil, Flags.ofLetters, List.foldr_nil,
        Assembly.setFlags_none whole]⟩
  | cons first others inductiveHypothesis =>
      rw [List.flatMap_cons, Token.plain, List.map_append] at done
      rcases takeAll_append_eq_ok_iff.mp done with ⟨middle, taken, further⟩
      rcases leading first List.mem_cons_self with ⟨nonempty, firstLeading⟩
      rcases takeAll_flagGroup nonempty (all_isFlagLetter firstLeading) taken with ⟨next, rfl⟩
      have rest := fun group member => leading group (List.mem_cons_of_mem _ member)
      rcases inductiveHypothesis rfl rest further with ⟨stop, rfl⟩
      refine ⟨stop, ?_⟩
      rw [Assembly.setFlags_setFlags, ← Flags.ofLetters_append, List.flatten_cons]

theorem not_mem_flagGroup (flags : letters.all Opening.isFlagLetter = true) :
    '\\' ∉ flagGroup letters := by
  intro inside
  simp only [flagGroup, List.mem_cons, List.mem_append, List.not_mem_nil, or_false] at inside
  rcases inside with same | same | letter | same
  · cases same
  · cases same
  · exact absurd (List.all_eq_true.mp flags _ letter) (by decide)
  · cases same

/-- Flag groups are as many tokens as characters, since no letter of a flag is
a backslash. -/
theorem split_flagGroups {groups : List (List Char)}
    (leading : forall group, group ∈ groups -> group ≠ [] ∧ group.all isLeadingFlag = true) :
    Token.split (groups.flatMap flagGroup) = (Token.plain (groups.flatMap flagGroup), false) := by
  apply Token.split_plain
  intro member
  rcases List.mem_flatMap.mp member with ⟨group, among, inside⟩
  exact not_mem_flagGroup (all_isFlagLetter (leading group among).2) inside

/-- Flags for a group are taken with the colon, and then the group is open.
It skips comments if one of its letters says so. -/
theorem takeAll_flagged (nonempty : letters ≠ []) (leading : letters.all isLeadingFlag = true)
    (done : takeAll ⟨position, .item, assembly⟩ (Token.plain ('(' :: '?' :: letters ++ [':'])) =
      .ok later) :
    ∃ stop, later = ⟨stop, .item, assembly.openGroup (.flagged ⟨.ofLetters letters, {}⟩) position
      (assembly.frame.verbose || (Flags.ofLetters letters).verbose)⟩ := by
  rw [Token.plain, List.map_append] at done
  rcases takeAll_append_eq_ok_iff.mp done with ⟨middle, flags, ends⟩
  rcases takeAll_flags nonempty (all_isFlagLetter leading) flags with ⟨stop, rfl⟩
  rcases takeAll_cons_eq_ok_iff.mp ends with ⟨last, taken, finished⟩
  cases finished
  rw [take_opening rfl] at taken
  rcases Except.bind_eq_ok_iff.mp taken with ⟨outcome, decided, opening⟩
  have colon : Token.is ⟨false, ':'⟩ ':' = true := rfl
  have notClosing : Token.is ⟨false, ':'⟩ ')' = false := rfl
  simp only [Opening.take, Opening.takeFlagOn, colon, notClosing, Bool.true_or, Bool.false_eq_true,
    if_false, if_true] at decided
  split at decided
  · cases decided
  · cases decided
    simp only [takeOpened, Bool.not_false, Bool.and_true] at opening
    cases opening
    exact ⟨_, rfl⟩

theorem split_flagged (leading : letters.all isLeadingFlag = true) :
    Token.split ('(' :: '?' :: letters ++ [':']) =
      (Token.plain ('(' :: '?' :: letters ++ [':']), false) := by
  apply Token.split_plain
  intro member
  simp only [List.cons_append, List.mem_cons, List.mem_append, List.not_mem_nil, or_false] at member
  rcases member with same | same | letter | same
  · cases same
  · cases same
  · exact absurd (List.all_eq_true.mp leading _ letter) (by decide)
  · cases same

/-- Behind flags that are written with a colon, an expression is read in a
group that sets them. -/
theorem ReadsTo.flagged {text body inner : List Char} {ended : Assembly}
    (split : splitFlags text = (letters, body)) (begins : letters ≠ [])
    (reads : initial.ReadsTo (('(' :: '?' :: letters.eraseDups ++ [':']) ++ inner) ended) :
    ∃ other, ReadsTo ⟨other, .item, Assembly.initial.openGroup (.flagged ⟨.ofLetters letters, {}⟩) 0
      (Flags.ofLetters letters).verbose⟩ inner ended := by
  have leading := all_eraseDups_of_splitFlags split
  have tokens := split_flagged leading
  rcases (readsTo_append_iff (congrArg Prod.snd tokens)).mp reads with ⟨_, opening, innerReads⟩
  rw [tokens] at opening
  rcases takeAll_flagged (eraseDups_ne_nil begins) leading opening with ⟨other, rfl⟩
  rw [Flags.ofLetters_eraseDups] at innerReads
  exact ⟨other, innerReads⟩

/-- The flags that an expression begins with are set for all of it, and
reading goes on behind them.  Nothing before the body is a comment. -/
theorem ReadsTo.leadingFlags {text body : List Char} {ended : Assembly}
    (split : splitFlags text = (letters, body)) (reads : initial.ReadsTo text ended) :
    ∃ stop, ReadsTo ⟨stop, .item, Assembly.initial.setFlags (.ofLetters letters)⟩ body ended ∧
      forall verbose, initial.isLegible verbose (Token.split text).1 = true ->
        isLegible verbose ⟨stop, .item, Assembly.initial.setFlags (.ofLetters letters)⟩
          (Token.split body).1 = true := by
  rcases splitFlags_eq split with ⟨groups, leading, rfl, rfl⟩
  have tokens := split_flagGroups leading
  have whole := congrArg Prod.snd tokens
  rcases (readsTo_append_iff whole).mp reads with ⟨later, done, laterReads⟩
  have taken := done
  rw [tokens] at taken
  rcases takeAll_flagGroups rfl leading taken with ⟨stop, rfl⟩
  refine ⟨stop, laterReads, fun verbose legible => ?_⟩
  rw [Token.split_append whole, isLegible_eq_passes] at legible
  rw [isLegible_eq_passes]
  exact passes_of_append legible done

end Reading

end Regex
end Stencil

import Stencil.Proofs.Isolation.Scan
import Stencil.Proofs.Reading.Parallel
import Stencil.Proofs.Reading.References
import Stencil.Proofs.Text.CharacterName
import Stencil.Proofs.Text.Naming

namespace Stencil
namespace Regex

/-!
Where the scan for groups is while an expression is read.  In every mode of
the reading the scan is in some region, and it is in step as long as nothing
follows that it would see otherwise: after a bracket, a character that it
takes along with the bracket, or after a parenthesis, an extension that it
drops or skips.

With every token that the scan copies the two stay in step, unless the reading
is lost.  The scan does not know the names of characters, nor the names of
groups that are referred to, so it can lose its place in one; but no name
holds a character that matters to it, so that a lost reading leads nowhere.
-/

open Isolation (Region)

def EscapePlace.region : EscapePlace -> Region
  | .outside => .outside
  | .inSet _ _ => .inClass

/-- Where the scan is while the reading is in this mode. -/
def Mode.region : Mode -> Region
  | .item => .outside
  | .lineComment => .lineComment
  | .comment _ => .comment
  | .escape place _ _ _ => place.region
  | .set _ _ => .inClass
  | .bounds _ _ => .outside
  | .quantified _ => .outside
  | .opening _ (.groupName _) => .groupName
  | .opening _ _ => .outside

/-- Whether the scan goes on token by token in this mode, with the given text
ahead.  It does not where it looks at several characters at once, as at the
beginning of a class or of a group. -/
def Mode.IsScanned (rest : List Char) : Mode -> Prop
  | .set _ .opened => rest.head? ≠ some '^' ∧ rest.head? ≠ some ']'
  | .set begun .beforeItem => begun.members = [] -> rest.head? ≠ some ']'
  | .opening _ .question =>
      rest.head? ≠ some '#' ∧ ¬ ['P', '<'] <+: rest ∧ rest.head? ≠ some '('
  | .opening _ .extension => rest.head? ≠ some '<'
  | .opening _ .parenthesis => False
  | .opening _ (.groupName _) => False
  | _ => True

/-- The scan, in the region and with the given text ahead, is in step with the
reading: it is where the reading is, and the next token will mean the same to
both. -/
structure Mode.InStep (region : Region) (rest : List Char) (mode : Mode) : Prop where
  region : mode.region = region
  scanned : mode.IsScanned rest

theorem Mode.eq_lineComment_of_region {mode : Mode} (same : mode.region = .lineComment) :
    mode = .lineComment := by
  cases mode with
  | lineComment => rfl
  | escape place start first escape => cases place <;> cases same
  | opening start opening => cases opening <;> cases same
  | _ => cases same

theorem Mode.exists_comment_of_region {mode : Mode} (same : mode.region = .comment) :
    ∃ start, mode = .comment start := by
  cases mode with
  | comment start => exact ⟨start, rfl⟩
  | escape place start first escape => cases place <;> cases same
  | opening start opening => cases opening <;> cases same
  | _ => cases same

/-- The characters that tell the scan where it is.  Escapes and names are
where the reading may meet one and not heed it. -/
def marks : List Char := ['#', '(', '[', ']']

/-- Whether more is taken with the token, rather than something being complete
before it. -/
def Mode.goesOn (token : Token) : Mode -> Bool
  | .escape _ _ _ begun => begun.goesOn token
  | .bounds _ begun => begun.goesOn token
  | .quantified _ => token.is '?' || token.is '+'
  | .opening _ begun => begun.goesOn token
  | _ => true

/-- A name is being read that neither a character nor a group has.  Here the
scan and the reading may lose one another, for no expression comes of it. -/
inductive Mode.IsLost : Mode -> Prop where
  | name {place : EscapePlace} {start : Nat} {token : Token} {characters : List Char}
      {symbol : Char} (mark : symbol ∈ marks) (member : symbol ∈ characters) :
      IsLost (.escape place start token (.name characters))
  | afterName {place : EscapePlace} {start : Nat} {token : Token} {characters : List Char}
      {symbol : Char} (mark : symbol ∈ marks) (member : symbol ∈ characters) :
      IsLost (.escape place start token (.afterName characters))
  | reference {start : Nat} {characters : List Char} {symbol : Char}
      (foreign : Text.standsInNames symbol = false) (member : symbol ∈ characters) :
      IsLost (.opening start (.referenceName characters))
  | condition {start : Nat} {characters : List Char} {symbol : Char}
      (foreign : Text.standsInNames symbol = false) (member : symbol ∈ characters) :
      IsLost (.opening start (.conditionName characters))

namespace Reading

variable {verbose : Bool} {region : Region} {rest : List Char} {reading settled later : Reading}
  {token : Token}

/-- Whether the scan sees comments begin and end where they are read.  It
takes a `#` for the beginning of a comment in all of the expression or
nowhere, while groups may change that, and an escaped character for the end of
a comment, while the reading takes it as a token. -/
def showsComments (verbose : Bool) (settled : Reading) (token : Token) : Bool :=
  match settled.mode with
  | .item => !token.is '#' || settled.assembly.frame.verbose == verbose
  | .lineComment => !(token.escaped && token.character == '\n')
  | .comment _ => !(token.escaped && token.character == ')')
  | _ => true

/-- Whether the scan sees all comments in the text that is ahead.  Where the
reading stops there is nothing more to see. -/
def isLegible (verbose : Bool) (reading : Reading) : List Token -> Bool
  | [] => true
  | token :: rest =>
      match reading.settle (some token) with
      | .error _ => true
      | .ok settled =>
          settled.showsComments verbose token &&
            match settled.takeSettled token with
            | .error _ => true
            | .ok later => later.isLegible verbose rest

/-- Whether each token of the text that is ahead passes a test where it is
taken. -/
def passes (test : Reading -> Token -> Bool) (reading : Reading) : List Token -> Bool
  | [] => true
  | token :: rest =>
      match reading.settle (some token) with
      | .error _ => true
      | .ok settled =>
          test settled token &&
            match settled.takeSettled token with
            | .error _ => true
            | .ok later => later.passes test rest

theorem isLegible_eq_passes (verbose : Bool) (reading : Reading) (tokens : List Token) :
    reading.isLegible verbose tokens = reading.passes (showsComments verbose) tokens := by
  induction tokens generalizing reading with
  | nil => rfl
  | cons token rest inductiveHypothesis =>
      rw [isLegible, passes]
      cases reading.settle (some token) with
      | error fault => rfl
      | ok settled =>
          dsimp only
          cases settled.takeSettled token with
          | error fault => rfl
          | ok later => exact congrArg (_ && ·) (inductiveHypothesis later)

/-- What passes a test does so from every place in it. -/
theorem passes_of_append {test : Reading -> Token -> Bool} {front back : List Token}
    (passed : reading.passes test (front ++ back) = true)
    (done : reading.takeAll front = .ok later) : later.passes test back = true := by
  induction front generalizing reading with
  | nil =>
      cases done
      exact passed
  | cons token rest inductiveHypothesis =>
      rcases takeAll_cons_eq_ok_iff.mp done with ⟨middle, first, others⟩
      rcases take_eq_ok_iff.mp first with ⟨settled, settling, taken⟩
      rw [List.cons_append] at passed
      simp only [passes, settling, taken, Bool.and_eq_true] at passed
      exact inductiveHypothesis passed.2 others

/-- What passes two tests passes both at once. -/
theorem passes_and {test other : Reading -> Token -> Bool} {tokens : List Token}
    (passed : reading.passes test tokens = true) (otherPassed : reading.passes other tokens = true) :
    reading.passes (fun settled token => test settled token && other settled token) tokens =
      true := by
  induction tokens generalizing reading with
  | nil => rfl
  | cons token rest inductiveHypothesis =>
      unfold passes at passed otherPassed ⊢
      split
      · rfl
      · rename_i settled settling
        simp only [settling, Bool.and_eq_true] at passed otherPassed ⊢
        refine ⟨⟨passed.1, otherPassed.1⟩, ?_⟩
        split
        · rfl
        · rename_i later taken
          simp only [taken] at passed otherPassed
          exact inductiveHypothesis passed.2 otherPassed.2

/-! ## Parts of the reading -/

theorem inStep_item (rest : List Char) (done : later.mode = .item) :
    later.mode.InStep .outside rest :=
  done ▸ ⟨rfl, trivial⟩

theorem inStep_takeSetItem {set : SetReading} {place : SetReading.Place} {item : Member}
    (rest : List Char) (done : reading.takeSetItem set place item token = .ok later) :
    later.mode.InStep .inClass rest := by
  rcases Except.bind_eq_ok_iff.mp done with ⟨⟨further, next⟩, taken, same⟩
  cases same
  unfold SetReading.takeItem at taken
  split at taken
  · rcases Except.bind_eq_ok_iff.mp taken with ⟨member, _, added⟩
    cases added
    exact ⟨rfl, fun impossible => nomatch impossible⟩
  · cases taken
    exact ⟨rfl, trivial⟩

theorem inStep_takeEscape {place : EscapePlace} {start : Nat} {meaning : Escape.Meaning}
    (rest : List Char) (done : reading.takeEscape place start token meaning = .ok later) :
    later.mode.InStep place.region rest := by
  unfold takeEscape at done
  split at done
  · exact inStep_item rest (mode_takeMeaning done)
  · split at done
    · exact inStep_takeSetItem rest done
    · cases done

theorem inStep_beginEscape {place : EscapePlace} {start : Nat} (rest : List Char)
    (done : reading.beginEscape place start token = .ok later) :
    later.mode.InStep place.region rest := by
  unfold beginEscape at done
  split at done
  · exact inStep_takeEscape rest done
  · cases done
    exact ⟨rfl, trivial⟩
  · cases done

theorem inStep_beginSetItem {set : SetReading} {place : SetReading.Place} {start : Nat}
    (rest : List Char) (done : reading.beginSetItem set place start token = .ok later) :
    later.mode.InStep .inClass rest := by
  unfold beginSetItem at done
  split at done
  · exact inStep_beginEscape rest done
  · exact inStep_takeSetItem rest done

theorem inStep_beginQuantifier {counts : Counts} {start : Nat} (rest : List Char)
    (done : reading.beginQuantifier counts start = .ok later) :
    later.mode.InStep .outside rest := by
  rw [mode_beginQuantifier done]
  exact ⟨rfl, trivial⟩

/-- What is completed before a token leaves the scan where it is, since it has
been copied already. -/
theorem inStep_complete {next : Option Token} (inStep : reading.mode.InStep region rest)
    (done : reading.complete next = .ok later) : later.mode.InStep region rest := by
  rcases reading with ⟨position, mode, assembly⟩
  rcases inStep with ⟨same, scanned⟩
  unfold complete at done
  cases mode with
  | escape place start first escape =>
      dsimp only at done
      split at done
      · cases done
        exact ⟨same, scanned⟩
      · rcases Except.bind_eq_ok_iff.mp done with ⟨_, _, taken⟩
        exact same ▸ inStep_takeEscape rest taken
  | bounds start bounds =>
      dsimp only at done
      split at done
      · cases done
        exact ⟨same, scanned⟩
      · cases done
        exact ⟨same, trivial⟩
  | quantified counts =>
      dsimp only at done
      split at done
      · cases done
        exact ⟨same, scanned⟩
      · cases done
        exact ⟨same, trivial⟩
  | opening start opening =>
      cases opening with
      | parenthesis => cases scanned
      | _ =>
          cases done
          exact ⟨same, scanned⟩
  | _ =>
      cases done
      exact ⟨same, scanned⟩

theorem goesOn_of_complete (done : reading.complete (some token) = .ok settled) :
    settled.mode.goesOn token = true := by
  rcases mode_complete done with rfl | same | ⟨_, _, same⟩
  · rcases settled with ⟨position, mode, assembly⟩
    cases mode with
    | escape place start first escape =>
        unfold complete at done
        dsimp only at done
        split at done
        · assumption
        · rcases Except.bind_eq_ok_iff.mp done with ⟨_, _, taken⟩
          rcases mode_takeEscape taken with same | ⟨_, _, same⟩
          · cases same
          · cases same
    | bounds start bounds =>
        unfold complete at done
        dsimp only at done
        split at done
        · assumption
        · cases done
    | quantified counts =>
        unfold complete at done
        dsimp only at done
        split at done
        · assumption
        · cases done
    | opening start opening =>
        cases opening with
        | parenthesis =>
            unfold complete at done
            dsimp only at done
            split at done
            · assumption
            · cases done
        | _ => rfl
    | _ => rfl
  · rw [same]
    rfl
  · rw [same]
    rfl

/-! ## Characters that tell where the scan is -/

/-- An escape goes on with such a character only in a name, for a number goes
on with digits only. -/
theorem isLost_extend {place : EscapePlace} {start : Nat} {first : Token} {symbol : Char}
    {escape : Escape.Unfinished} (mark : symbol ∈ marks)
    (goesOn : escape.goesOn ⟨false, symbol⟩ = true) :
    (Mode.escape place start first (escape.extend ⟨false, symbol⟩)).IsLost := by
  have passesNot : forall test : Char -> Bool, marks.all (fun symbol => !test symbol) = true ->
      Token.passes ⟨false, symbol⟩ test = false := by
    intro test rejected
    have rejects := List.all_eq_true.mp rejected symbol mark
    exact (Bool.not_eq_true' _).mp rejects
  cases escape with
  | hexadecimal letter size digits =>
      rw [Escape.Unfinished.goesOn, passesNot _ rfl, Bool.and_false] at goesOn
      cases goesOn
  | octal digits =>
      rw [Escape.Unfinished.goesOn, passesNot _ rfl, Bool.and_false] at goesOn
      cases goesOn
  | number digits =>
      rcases digits with _ | ⟨_, _ | ⟨_, _ | ⟨_, _⟩⟩⟩
      · cases goesOn
      · rw [Escape.Unfinished.goesOn, passesNot _ rfl] at goesOn
        cases goesOn
      · rw [Escape.Unfinished.goesOn, passesNot _ rfl, Bool.and_false] at goesOn
        cases goesOn
      · cases goesOn
  | beforeName =>
      have notBrace := passesNot (· == '{') rfl
      exact absurd (notBrace.symm.trans goesOn) Bool.false_ne_true
  | name characters =>
      have notBrace : Token.is ⟨false, symbol⟩ '}' = false := passesNot (· == '}') rfl
      rw [Escape.Unfinished.extend, notBrace]
      exact .name mark (List.mem_append_right _ (List.mem_singleton.mpr rfl))
  | afterName characters => cases goesOn

/-- No name of a group holds such a character, so a name in which one is met
is none. -/
theorem foreign_of_mark {symbol : Char} (mark : symbol ∈ marks) :
    Text.standsInNames symbol = false := by
  have foreign : marks.all (fun symbol => !Text.standsInNames symbol) = true := by
    decide +kernel
  exact (Bool.not_eq_true' _).mp (List.all_eq_true.mp foreign symbol mark)

/-- Outside of classes, such a character begins something or loses the scan
its place. -/
theorem item_or_isLost_of_mark {symbol : Char} (mark : symbol ∈ marks)
    (outside : settled.mode.region = .outside) (scanned : settled.mode.IsScanned (symbol :: rest))
    (goesOn : settled.mode.goesOn ⟨false, symbol⟩ = true)
    (taken : settled.takeSettled ⟨false, symbol⟩ = .ok later) :
    settled.mode = .item ∨ later.mode.IsLost := by
  rcases settled with ⟨position, mode, assembly⟩
  cases mode with
  | item => exact .inl rfl
  | lineComment => cases outside
  | comment start => cases outside
  | set begun place => cases outside
  | escape place start first escape =>
      cases taken
      exact .inr (isLost_extend mark goesOn)
  | bounds start bounds =>
      have stops : marks.all (fun symbol => !bounds.goesOn ⟨false, symbol⟩) = true := rfl
      have stopped := List.all_eq_true.mp stops symbol mark
      rw [Mode.goesOn] at goesOn
      rw [goesOn] at stopped
      cases stopped
  | quantified counts =>
      have stops : marks.all (fun symbol => !(Mode.quantified counts).goesOn ⟨false, symbol⟩) = true :=
        rfl
      have stopped := List.all_eq_true.mp stops symbol mark
      rw [goesOn] at stopped
      cases stopped
  | opening start opening =>
      rcases Except.bind_eq_ok_iff.mp taken with ⟨outcome, decided, done⟩
      have foreign := foreign_of_mark mark
      have closesNot : marks.all (fun symbol => !Token.is ⟨false, symbol⟩ ')') = true := rfl
      have notClosing : Token.is ⟨false, symbol⟩ ')' = false :=
        (Bool.not_eq_true' _).mp (List.all_eq_true.mp closesNot symbol mark)
      simp only [marks, List.mem_cons, List.not_mem_nil, or_false] at mark
      cases opening with
      | parenthesis => cases scanned
      | groupName characters => cases outside
      | referenceName characters =>
          simp only [Opening.take, notClosing, Bool.false_eq_true, if_false] at decided
          cases decided
          cases done
          exact .inr (.reference foreign (List.mem_append_right _ (List.mem_singleton.mpr rfl)))
      | conditionName characters =>
          simp only [Opening.take, notClosing, Bool.false_eq_true, if_false] at decided
          cases decided
          cases done
          exact .inr (.condition foreign (List.mem_append_right _ (List.mem_singleton.mpr rfl)))
      | question =>
          rcases mark with rfl | rfl | rfl | rfl
          · exact absurd rfl scanned.1
          · exact absurd rfl scanned.2.2
          · cases decided
          · cases decided
      | extension => rcases mark with rfl | rfl | rfl | rfl <;> cases decided
      | angle => rcases mark with rfl | rfl | rfl | rfl <;> cases decided
      | flagsOn added => rcases mark with rfl | rfl | rfl | rfl <;> cases decided
      | flagsOff added removed begun =>
          cases begun <;> rcases mark with rfl | rfl | rfl | rfl <;> cases decided

/-! ## One token -/

/-- Between two items, a token that begins no comment, no group and no set
leaves the scan where it is. -/
theorem inStep_takeInExpression {start : Nat} (rest : List Char) (between : reading.mode = .item)
    (notHash : token.is '#' = false) (copied : Region.outside.copies token = true)
    (done : reading.takeInExpression start token = .ok later) :
    later.mode.InStep .outside rest := by
  have item : forall {assembly : Assembly},
      Except.ok (reading.withItem assembly) = (.ok later : Except Fault Reading) ->
        later.mode.InStep .outside rest := by
    intro assembly done
    cases done
    exact inStep_item rest rfl
  rcases token with ⟨escaped, character⟩
  unfold takeInExpression at done
  dsimp only at done
  split at done
  · exact item done
  split at done
  · exact item done
  split at done
  · cases done
    exact inStep_item rest between
  split at done
  · rename_i begins
    rw [notHash, Bool.and_false] at begins
    cases begins
  split at done
  · exact inStep_beginEscape rest done
  rename_i notEscaped
  rw [Bool.not_eq_true] at notEscaped
  cases notEscaped
  split at done
  · cases copied
  · cases copied
  · exact inStep_beginQuantifier rest done
  · exact inStep_beginQuantifier rest done
  · exact inStep_beginQuantifier rest done
  · cases done
    exact ⟨rfl, trivial⟩
  · exact item done
  · exact item done
  · exact item done
  · exact item done

/-- Between two items, a `#` begins a comment where comments are skipped. -/
theorem inStep_takeInExpression_hash {start : Nat} (rest : List Char)
    (shows : reading.assembly.frame.verbose = verbose)
    (done : reading.takeInExpression start ⟨false, '#'⟩ = .ok later) :
    later.mode.InStep (if verbose then .lineComment else .outside) rest := by
  have notBlank : Token.passes ⟨false, '#'⟩ (fun c => Text.isAsciiBlank c.toNat) = false := rfl
  unfold takeInExpression at done
  simp only [notBlank, shows, Bool.and_false, Bool.false_eq_true, if_false] at done
  cases verbose with
  | true =>
      cases done
      exact ⟨rfl, trivial⟩
  | false =>
      cases done
      exact ⟨rfl, trivial⟩

theorem inStep_takeInSet {set : SetReading} {place : SetReading.Place} {start : Nat}
    (rest : List Char) (scanned : (Mode.set set place).IsScanned (token.characters ++ rest))
    (done : reading.takeInSet set place start token = .ok later) :
    later.mode.InStep (Region.inClass.after verbose token) rest := by
  have after : Region.inClass.after verbose token =
      if token.is ']' then .outside else .inClass := rfl
  have begins : forall {further : SetReading} {next : SetReading.Place},
      token.is ']' = false -> reading.beginSetItem further next start token = .ok later ->
        later.mode.InStep (Region.inClass.after verbose token) rest := by
    intro further next staysInside begun
    rw [after, staysInside]
    exact inStep_beginSetItem rest begun
  have closes : forall {further : SetReading}, token.is ']' = true ->
      Except.ok (reading.withItem (reading.assembly.push further.expr)) =
        (.ok later : Except Fault Reading) ->
      later.mode.InStep (Region.inClass.after verbose token) rest := by
    intro further is closed
    cases closed
    rw [after, is]
    exact inStep_item rest rfl
  unfold takeInSet at done
  dsimp only at done
  cases place with
  | opened =>
      dsimp only at done
      split at done
      · rename_i is
        exact absurd (Token.head?_of_is is rest) scanned.1
      · refine begins ?_ done
        exact Bool.eq_false_iff.mpr fun is => scanned.2 (Token.head?_of_is is rest)
  | beforeItem =>
      dsimp only at done
      split at done
      · rename_i ends
        exact closes (Bool.and_eq_true_iff.mp ends).1 done
      · rename_i goesOn
        refine begins (Bool.eq_false_iff.mpr fun is => ?_) done
        have memberless : set.members = [] := by
          simpa [is] using goesOn
        exact scanned memberless (Token.head?_of_is is rest)
  | afterItem item first =>
      dsimp only at done
      split at done
      · rename_i is
        cases Token.eq_of_is is
        cases done
        exact ⟨rfl, trivial⟩
      split at done
      · rename_i is
        exact closes is done
      · rename_i otherwise
        exact begins (Bool.eq_false_iff.mpr otherwise) done
  | afterDash item first =>
      dsimp only at done
      split at done
      · rename_i is
        exact closes is done
      · rename_i otherwise
        exact begins (Bool.eq_false_iff.mpr otherwise) done

/-- What a token makes of an opening leaves the scan where it is, if it is a
further opening. -/
def KeepsStep (start : Nat) (rest : List Char) : Opening ⊕ Opened -> Prop
  | .inl further => (Mode.opening start further).InStep .outside rest
  | .inr opened => opened ≠ .comment

/-- An extension that is neither dropped nor skipped is copied to its end. -/
theorem keepsStep_take {start : Nat} {opening : Opening}
    (scanned : (Mode.opening start opening).IsScanned (token.characters ++ rest))
    (notHash : token.is '#' = false) (stop : Nat) :
    (opening.take token stop).Yields (KeepsStep start rest) := by
  have goesOn : forall {further : Opening}, (Mode.opening start further).InStep .outside rest ->
      (Except.ok (.inl further) : Except Fault (Opening ⊕ Opened)).Yields
        (KeepsStep start rest) :=
    fun inStep => .ok inStep
  have opens : forall {opened : Opened}, opened ≠ .comment ->
      (Except.ok (.inr opened) : Except Fault (Opening ⊕ Opened)).Yields
        (KeepsStep start rest) :=
    fun different => .ok different
  cases opening with
  | parenthesis => cases scanned
  | groupName characters => cases scanned
  | referenceName characters =>
      have notComment (name : Name) : Opened.reference name ≠ .comment := nofun
      refine .ite (fun _ => .map notComment) ?_
      exact goesOn ⟨rfl, trivial⟩
  | conditionName characters =>
      have notComment (name : Name) : Opened.conditional name ≠ .comment := nofun
      refine .ite (fun _ => .map notComment) ?_
      exact goesOn ⟨rfl, trivial⟩
  | question =>
      refine .ite (fun is => goesOn ⟨rfl, fun angle => scanned.2.1 ?_⟩) ?_
      · rcases List.head?_eq_some_iff.mp angle with ⟨others, rfl⟩
        exact ⟨others, congrArg (·.characters ++ '<' :: others) (Token.eq_of_is is).symm⟩
      refine .ite (fun _ => opens nofun) ?_
      refine .ite (fun is => absurd (notHash.symm.trans is) nofun) ?_
      refine .ite (fun _ => opens nofun) (.ite (fun _ => opens nofun) ?_)
      refine .ite (fun _ => goesOn ⟨rfl, trivial⟩) ?_
      refine .ite (fun is => absurd (Token.head?_of_is is rest) scanned.2.2) ?_
      refine .ite (fun _ => opens nofun) (.ite (fun _ => goesOn ⟨rfl, trivial⟩) ?_)
      exact .ite (fun _ => .map fun _ => ⟨rfl, trivial⟩) .error
  | extension =>
      refine .ite (fun is => absurd (Token.head?_of_is is rest) scanned) ?_
      exact .ite (fun _ => goesOn ⟨rfl, trivial⟩) .error
  | angle => exact .ite (fun _ => opens nofun) (.ite (fun _ => opens nofun) .error)
  | flagsOn added =>
      refine .ite (fun _ => opens nofun) (.ite (fun _ => ?_) ?_)
      · refine .ite (fun _ => .error) (.ite (fun _ => opens nofun) ?_)
        exact goesOn ⟨rfl, trivial⟩
      · exact .ite (fun _ => .map fun _ => ⟨rfl, trivial⟩) .error
  | flagsOff added removed begun =>
      refine .ite (fun _ => ?_) ?_
      · exact .ite (fun _ => .error) (.ite (fun _ => .error) (opens nofun))
      · exact .ite (fun _ => .map fun _ => ⟨rfl, trivial⟩) .error

/-- Outside of classes, a `#` begins a comment for the scan if it does so for
the reading. -/
theorem inStep_takeSettled_hash
    (inStep : settled.mode.InStep .outside ('#' :: rest))
    (goesOn : settled.mode.goesOn ⟨false, '#'⟩ = true)
    (shows : settled.showsComments verbose ⟨false, '#'⟩ = true)
    (taken : settled.takeSettled ⟨false, '#'⟩ = .ok later) :
    later.mode.InStep (Region.outside.after verbose ⟨false, '#'⟩) rest ∨ later.mode.IsLost := by
  rcases item_or_isLost_of_mark (List.mem_cons_self) inStep.region inStep.scanned goesOn taken
    with between | lost
  · rcases settled with ⟨position, mode, assembly⟩
    cases between
    have same : assembly.frame.verbose = verbose := by
      simpa [showsComments, Token.is] using shows
    have after : Region.outside.after verbose ⟨false, '#'⟩ =
        if verbose then .lineComment else .outside := by
      cases verbose <;> rfl
    rw [after]
    exact .inl (inStep_takeInExpression_hash rest same taken)
  · exact .inr lost

/-- Outside of classes, any other token that the scan copies leaves it
there. -/
theorem inStep_takeSettled_outside
    (inStep : settled.mode.InStep .outside (token.characters ++ rest))
    (notHash : token.is '#' = false) (copied : Region.outside.copies token = true)
    (taken : settled.takeSettled token = .ok later) : later.mode.InStep .outside rest := by
  rcases settled with ⟨position, mode, assembly⟩
  rcases inStep with ⟨outside, scanned⟩
  unfold takeSettled at taken
  cases mode with
  | item => exact inStep_takeInExpression rest rfl notHash copied taken
  | lineComment => cases outside
  | comment start => cases outside
  | set set place => cases outside
  | escape place start first escape =>
      cases taken
      exact ⟨outside, trivial⟩
  | bounds start bounds =>
      dsimp only at taken
      split at taken
      · rcases Except.bind_eq_ok_iff.mp taken with ⟨_, _, begun⟩
        exact inStep_beginQuantifier rest begun
      · cases taken
        exact ⟨rfl, trivial⟩
  | quantified counts =>
      cases taken
      exact inStep_item rest rfl
  | opening start opening =>
      rcases Except.bind_eq_ok_iff.mp taken with ⟨outcome, decided, done⟩
      have keeps := keepsStep_take scanned notHash _ outcome decided
      cases outcome with
      | inl further =>
          cases done
          exact keeps
      | inr opened =>
          rcases mode_takeOpened done with same | ⟨comment, _⟩
          · exact inStep_item rest same
          · exact absurd comment keeps

/-- With a token that the scan copies, it stays in step with the reading,
unless that is lost. -/
theorem inStep_takeSettled (inStep : settled.mode.InStep region (token.characters ++ rest))
    (goesOn : settled.mode.goesOn token = true) (copied : region.copies token = true)
    (shows : settled.showsComments verbose token = true)
    (taken : settled.takeSettled token = .ok later) :
    later.mode.InStep (region.after verbose token) rest ∨ later.mode.IsLost := by
  cases region with
  | outside =>
      by_cases hash : token.is '#' = true
      · cases Token.eq_of_is hash
        exact inStep_takeSettled_hash inStep goesOn shows taken
      · rw [Bool.not_eq_true] at hash
        have after : Region.outside.after verbose token = .outside := by
          rw [Region.after, hash, Bool.and_false, if_neg Bool.false_ne_true]
        rw [after]
        exact .inl (inStep_takeSettled_outside inStep hash copied taken)
  | inClass =>
      rcases settled with ⟨position, mode, assembly⟩
      rcases inStep with ⟨inClass, scanned⟩
      cases mode with
      | set set place => exact .inl (inStep_takeInSet rest scanned taken)
      | escape place start first escape =>
          cases taken
          by_cases bracket : token.is ']' = true
          · cases Token.eq_of_is bracket
            exact .inr (isLost_extend (by decide) goesOn)
          · have after : Region.inClass.after verbose token = .inClass := if_neg bracket
            rw [after]
            exact .inl ⟨inClass, trivial⟩
      | opening start opening => cases opening <;> cases inClass
      | _ => cases inClass
  | lineComment =>
      rcases settled with ⟨position, mode, assembly⟩
      cases Mode.eq_lineComment_of_region inStep.region
      cases taken
      rw [Region.after]
      split
      · exact .inl ⟨rfl, trivial⟩
      · exact .inl ⟨rfl, trivial⟩
  | comment =>
      rcases settled with ⟨position, mode, assembly⟩
      rcases Mode.exists_comment_of_region inStep.region with ⟨start, same⟩
      cases same
      cases taken
      rw [Region.after]
      split
      · exact .inl ⟨rfl, trivial⟩
      · exact .inl ⟨rfl, trivial⟩
  | groupName => cases copied

/-! ## Lost readings -/

/-- What is complete before the end, or before a token, is not a name that no
character has. -/
theorem finish_ne_ok_of_mark {characters : List Char} {symbol : Char} (mark : symbol ∈ marks)
    (member : symbol ∈ characters) (start stop : Nat) (meaning : Escape.Meaning) :
    (Escape.Unfinished.afterName characters).finish start stop ≠ .ok meaning := by
  intro done
  have notName : marks.all (fun symbol =>
      !Text.CharacterName.isNameCharacter symbol.toUpper) = true := rfl
  cases characters with
  | nil => cases member
  | cons first others =>
      unfold Escape.Unfinished.finish at done
      dsimp only at done
      split at done
      · rename_i character found
        have isName := Text.isNameCharacter_of_characterNamed? found member
        have foreign := List.all_eq_true.mp notName symbol mark
        rw [isName] at foreign
        cases foreign
      · cases done

theorem isIdentifier_of_endIdentifier {characters : List Char} {stop : Nat} {name : Name}
    (done : Opening.endIdentifier characters stop = .ok name) :
    Text.isIdentifier characters = true := by
  rcases Except.bind_eq_ok_iff.mp done with ⟨_, _, identifier⟩
  split at identifier
  · assumption
  · cases identifier

/-- The name of a condition is an identifier or a numeral. -/
theorem standsInNames_of_conditionGroup {name : Name} {assembly noting : Assembly} {group : Nat}
    (done : conditionGroup assembly name = .ok (group, noting)) {character : Char}
    (member : character ∈ name.characters) : Text.standsInNames character = true := by
  unfold conditionGroup at done
  dsimp only at done
  split at done
  · rename_i identifier
    exact Text.standsInNames_of_isIdentifier identifier member
  · split at done
    · cases done
    · rename_i numeral read
      exact Text.Numeral.standsInNames_of_read? read member

theorem characters_of_endName {characters : List Char} {stop : Nat} {name : Name}
    (done : Opening.endName characters stop = .ok name) : name.characters = characters := by
  unfold Opening.endName at done
  split at done
  · cases done
  · cases done
    rfl

theorem finish_ne_ok_of_isLost (lost : reading.mode.IsLost) (assembly : Assembly) :
    reading.finish ≠ .ok assembly := by
  intro ended
  rcases finish_eq_ok_iff.mp ended with ⟨completed, completing, noFault, _⟩
  rcases reading with ⟨position, mode, begun⟩
  cases lost with
  | name mark member => exact nomatch isNaming_of_complete completing
  | afterName mark member =>
      rcases Except.bind_eq_ok_iff.mp completing with ⟨meaning, finished, _⟩
      exact finish_ne_ok_of_mark mark member _ _ _ finished
  | reference foreign member =>
      cases completing
      cases noFault
  | condition foreign member =>
      cases completing
      cases noFault

/-- The name of a condition goes on for ever if it holds what no name does:
whatever comes next is taken into it. -/
theorem take_conditionName {position start : Nat} {characters : List Char} {assembly : Assembly}
    {symbol : Char} (foreign : Text.standsInNames symbol = false) (member : symbol ∈ characters)
    (taken : take ⟨position, .opening start (.conditionName characters), assembly⟩ token =
      .ok later) :
    later = ⟨position + token.length,
      .opening start (.conditionName (characters ++ token.characters)), assembly⟩ := by
  rw [take_opening rfl] at taken
  rcases Except.bind_eq_ok_iff.mp taken with ⟨outcome, decided, opening⟩
  unfold Opening.take at decided
  dsimp only at decided
  split at decided
  · rcases Except.map_eq_ok_iff.mp decided with ⟨name, ended, rfl⟩
    rcases takeOpened_conditional_eq_ok opening with ⟨group, noting, named, _⟩
    rw [← characters_of_endName ended] at member
    have stands := standsInNames_of_conditionGroup named member
    rw [foreign] at stands
    cases stands
  · cases decided
    cases opening
    rfl

/-- A lost reading stays lost with whatever token it takes. -/
theorem isLost_take (lost : reading.mode.IsLost) (taken : reading.take token = .ok later) :
    later.mode.IsLost := by
  rcases take_eq_ok_iff.mp taken with ⟨settled, settling, done⟩
  have completing := (settle_eq_ok_iff.mp settling).1
  rcases reading with ⟨position, mode, assembly⟩
  cases lost with
  | name mark member =>
      cases completing
      cases done
      unfold Escape.Unfinished.extend
      dsimp only [withMode]
      split
      · exact .afterName mark member
      · exact .name mark (List.mem_append_left _ member)
  | afterName mark member =>
      rcases Except.bind_eq_ok_iff.mp completing with ⟨meaning, finished, _⟩
      exact absurd finished (finish_ne_ok_of_mark mark member _ _ _)
  | reference foreign member =>
      cases completing
      rcases Except.bind_eq_ok_iff.mp done with ⟨outcome, decided, opening⟩
      unfold Opening.take at decided
      dsimp only at decided
      split at decided
      · rcases Except.map_eq_ok_iff.mp decided with ⟨name, ended, rfl⟩
        have stands :=
          Text.standsInNames_of_isIdentifier (isIdentifier_of_endIdentifier ended) member
        rw [foreign] at stands
        cases stands
      · cases decided
        cases opening
        exact .reference foreign (List.mem_append_left _ member)
  | condition foreign member =>
      rw [take_conditionName foreign member taken]
      exact .condition foreign (List.mem_append_left _ member)

/-- A lost reading leads nowhere: no expression ends with it. -/
theorem ne_ok_of_isLost {tokens : List Token} {assembly : Assembly} (lost : reading.mode.IsLost) :
    (reading.takeAll tokens >>= finish) ≠ .ok assembly := by
  induction tokens generalizing reading with
  | nil => exact finish_ne_ok_of_isLost lost assembly
  | cons token rest inductiveHypothesis =>
      intro done
      rcases Except.bind_eq_ok_iff.mp done with ⟨last, taken, ended⟩
      rcases takeAll_cons_eq_ok_iff.mp taken with ⟨later, first, others⟩
      exact inductiveHypothesis (isLost_take lost first)
        (Except.bind_eq_ok_iff.mpr ⟨last, others, ended⟩)

/-! ## Conditions -/

/-- Something has been noted about groups, and captures are asked for.
Neither can be taken back later. -/
structure Refers (assembly : Assembly) : Prop where
  plain : ¬ assembly.IsPlain
  positional : ¬ assembly.IsPositional

theorem Refers.becomes {first second : Assembly} (refers : Refers first)
    (becomes : first.Becomes second) : Refers second :=
  ⟨fun plain => refers.plain (becomes.isPlain plain),
    fun positional => refers.positional (becomes.isPositional positional)⟩

/-- In the name of a condition a reading only leads to expressions that refer
to groups. -/
theorem refers_of_condition {position start : Nat} {characters : List Char}
    {assembly ended : Assembly} {tokens : List Token}
    (done : (takeAll ⟨position, .opening start (.conditionName characters), assembly⟩ tokens >>=
      finish) = .ok ended) : Refers ended := by
  induction tokens generalizing position characters with
  | nil =>
      have ended : finish ⟨position, .opening start (.conditionName characters), assembly⟩ =
          .ok ended := done
      rcases finish_eq_ok_iff.mp ended with ⟨completed, completing, noFault, _⟩
      cases completing
      cases noFault
  | cons token rest inductiveHypothesis =>
      rcases Except.bind_eq_ok_iff.mp done with ⟨last, taken, finished⟩
      rcases takeAll_cons_eq_ok_iff.mp taken with ⟨later, first, others⟩
      rw [take_opening rfl] at first
      rcases Except.bind_eq_ok_iff.mp first with ⟨outcome, decided, opening⟩
      unfold Opening.take at decided
      dsimp only at decided
      split at decided
      · rcases Except.map_eq_ok_iff.mp decided with ⟨name, _, rfl⟩
        have refers : Refers later.assembly :=
          ⟨fun plain => takeOpened_conditional_isPlain_false opening plain,
            fun positional => takeOpened_conditional_isPositional_false opening positional⟩
        exact refers.becomes ((becomes_takeAll others).trans (becomes_finish finished))
      · cases decided
        cases opening
        exact inductiveHypothesis (Except.bind_eq_ok_iff.mpr ⟨last, others, finished⟩)

end Reading

end Regex
end Stencil

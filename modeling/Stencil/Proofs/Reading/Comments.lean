import Stencil.Proofs.Outcome
import Stencil.Proofs.Reading.Growth

namespace Stencil
namespace Regex

/-!
Where comments are read.  A comment begins with a `#`, either after an opening
parenthesis and a question mark or, where comments are skipped, between two
items, and then it goes on from token to token.  So a comment to the end of
the line is read only where comments are skipped, and a text without a `#`
holds no comment of either kind.
-/

def Mode.isComment : Mode -> Bool
  | .lineComment => true
  | .comment _ => true
  | _ => false

/-- Whether a token alone can begin this, comments apart.  Names and flags are
begun by several tokens. -/
def Mode.isBegun : Mode -> Bool
  | .lineComment => false
  | .comment _ => false
  | .opening _ .parenthesis => true
  | .opening _ _ => false
  | _ => true

theorem Mode.isComment_of_isBegun {mode : Mode} (begun : mode.isBegun = true) :
    mode.isComment = false := by
  cases mode with
  | lineComment => cases begun
  | comment start => cases begun
  | _ => rfl

/-- What stands before the token, and what the token is, where it makes this
of an opening. -/
def Opening.Precedes (opening : Opening) (token : Token) : Opening ⊕ Opened -> Prop
  | .inr (.capture _) => ∃ characters, opening = .groupName characters
  | .inr (.conditional _) => ∃ characters, opening = .conditionName characters
  | .inr .comment => token.is '#' = true
  | .inr (.flags _) => token.is ')' = true ∧ ∃ added, opening = .flagsOn added
  | .inl (.conditionName _) =>
      (opening = .question ∧ token.is '(' = true) ∨ ∃ characters, opening = .conditionName characters
  | _ => True

theorem Opening.precedes_take (opening : Opening) (token : Token) (stop : Nat) :
    (opening.take token stop).Yields (opening.Precedes token) := by
  cases opening with
  | parenthesis => exact .ok trivial
  | question =>
      refine .ite (fun _ => .ok trivial) (.ite (fun _ => .ok trivial) ?_)
      refine .ite (fun hash => .ok hash) (.ite (fun _ => .ok trivial) ?_)
      refine .ite (fun _ => .ok trivial) (.ite (fun _ => .ok trivial) ?_)
      refine .ite (fun parenthesis => .ok (.inl ⟨rfl, parenthesis⟩)) (.ite (fun _ => .ok trivial) ?_)
      refine .ite (fun _ => .ok trivial) ?_
      exact .ite (fun _ => .map fun _ => trivial) .error
  | extension => exact .ite (fun _ => .ok trivial) (.ite (fun _ => .ok trivial) .error)
  | groupName characters =>
      exact .ite (fun _ => .map fun _ => ⟨characters, rfl⟩) (.ok trivial)
  | referenceName characters => exact .ite (fun _ => .map fun _ => trivial) (.ok trivial)
  | conditionName characters =>
      exact .ite (fun _ => .map fun _ => ⟨characters, rfl⟩) (.ok (.inr ⟨characters, rfl⟩))
  | angle => exact .ite (fun _ => .ok trivial) (.ite (fun _ => .ok trivial) .error)
  | flagsOn added =>
      refine .ite (fun closes => .ok ⟨closes, added, rfl⟩) ?_
      refine .ite (fun _ => ?_) (.ite (fun _ => .map fun _ => trivial) .error)
      exact .ite (fun _ => .error) (.ite (fun _ => .ok trivial) (.ok trivial))
  | flagsOff added removed begun =>
      refine .ite (fun _ => ?_) (.ite (fun _ => .map fun _ => trivial) .error)
      exact .ite (fun _ => .error) (.ite (fun _ => .error) (.ok trivial))

namespace Reading

variable {reading later : Reading}

/-- A comment to the end of the line is read only where comments are
skipped. -/
def SkipsComments (reading : Reading) : Prop :=
  reading.mode = .lineComment -> reading.assembly.frame.verbose = true

theorem skipsComments_of_ne {reading : Reading} (different : reading.mode ≠ .lineComment) :
    reading.SkipsComments :=
  fun same => absurd same different

/-! ## What is read next -/

theorem mode_takeMeaning {meaning : Escape.Meaning} {start : Nat}
    (done : reading.takeMeaning meaning start = .ok later) : later.mode = .item := by
  unfold takeMeaning at done
  split at done
  · cases done
    rfl
  · cases done
    rfl
  · cases done
    rfl
  · split at done
    · cases done
    · rcases Except.map_eq_ok_iff.mp done with ⟨_, _, rfl⟩
      rfl

theorem mode_takeSetItem {set : SetReading} {place : SetReading.Place} {item : Member}
    {token : Token} (done : reading.takeSetItem set place item token = .ok later) :
    ∃ further next, later.mode = .set further next := by
  rcases Except.bind_eq_ok_iff.mp done with ⟨⟨further, next⟩, _, rest⟩
  cases rest
  exact ⟨further, next, rfl⟩

theorem mode_takeEscape {place : EscapePlace} {start : Nat} {token : Token}
    {meaning : Escape.Meaning} (done : reading.takeEscape place start token meaning = .ok later) :
    later.mode = .item ∨ ∃ set next, later.mode = .set set next := by
  unfold takeEscape at done
  split at done
  · exact .inl (mode_takeMeaning done)
  · split at done
    · exact .inr (mode_takeSetItem done)
    · cases done

theorem mode_takeOpened {start : Nat} {opened : Opened}
    (done : reading.takeOpened start opened = .ok later) :
    later.mode = .item ∨ opened = .comment ∧ later.mode = .comment start := by
  cases opened with
  | capture name =>
      simp only [takeOpened] at done
      split at done
      · cases done
        exact .inl rfl
      · cases done
  | plain =>
      cases done
      exact .inl rfl
  | flagged change =>
      cases done
      exact .inl rfl
  | atomic =>
      cases done
      exact .inl rfl
  | look behind negated =>
      cases done
      exact .inl rfl
  | conditional name =>
      rcases takeOpened_conditional_eq_ok done with ⟨_, _, _, rfl⟩
      exact .inl rfl
  | comment =>
      cases done
      exact .inr ⟨rfl, rfl⟩
  | flags added =>
      simp only [takeOpened] at done
      split at done
      · cases done
        exact .inl rfl
      · cases done
  | reference name =>
      simp only [takeOpened] at done
      split at done
      · cases done
      · rcases Except.map_eq_ok_iff.mp done with ⟨_, _, rfl⟩
        exact .inl rfl

/-- Completing what ends leaves items, sets, or what has not ended: it begins
nothing new. -/
theorem mode_complete {next : Option Token} (done : reading.complete next = .ok later) :
    later = reading ∨ later.mode = .item ∨ ∃ set place, later.mode = .set set place := by
  unfold complete at done
  split at done
  · split at done
    · cases done
      exact .inl rfl
    · rcases Except.bind_eq_ok_iff.mp done with ⟨_, _, rest⟩
      exact .inr (mode_takeEscape rest)
  · split at done
    · cases done
      exact .inl rfl
    · cases done
      exact .inr (.inl rfl)
  · split at done
    · cases done
      exact .inl rfl
    · cases done
      exact .inr (.inl rfl)
  · split at done
    · cases done
      exact .inl rfl
    · simp only [takeOpened, Option.map_none, Assembly.openCapture] at done
      cases done
      exact .inr (.inl rfl)
  · cases done
    exact .inl rfl

theorem mode_beginQuantifier {counts : Counts} {start : Nat}
    (done : reading.beginQuantifier counts start = .ok later) : later.mode = .quantified counts := by
  unfold beginQuantifier at done
  split at done
  · cases done
  · cases done
    rfl

/-! ## Comments -/

theorem isBegun_beginEscape {place : EscapePlace} {start : Nat} {token : Token}
    (done : reading.beginEscape place start token = .ok later) : later.mode.isBegun = true := by
  unfold beginEscape at done
  split at done
  · rcases mode_takeEscape done with same | ⟨_, _, same⟩
    · rw [same]
      rfl
    · rw [same]
      rfl
  · cases done
    rfl
  · cases done

theorem isBegun_takeInSet {set : SetReading} {place : SetReading.Place} {start : Nat}
    {token : Token} (done : reading.takeInSet set place start token = .ok later) :
    later.mode.isBegun = true := by
  have item : forall {set : SetReading} {place : SetReading.Place},
      reading.beginSetItem set place start token = .ok later -> later.mode.isBegun = true := by
    intro set place done
    unfold beginSetItem at done
    split at done
    · exact isBegun_beginEscape done
    · rcases mode_takeSetItem done with ⟨_, _, same⟩
      rw [same]
      rfl
  have closed : forall {set : SetReading},
      Except.ok (reading.withItem (reading.assembly.push set.expr)) =
        (.ok later : Except Fault Reading) -> later.mode.isBegun = true := by
    intro set done
    cases done
    rfl
  unfold takeInSet at done
  dsimp only at done
  cases place with
  | opened =>
      dsimp only at done
      split at done
      · cases done
        rfl
      · exact item done
  | beforeItem =>
      dsimp only at done
      split at done
      · exact closed done
      · exact item done
  | afterItem member first =>
      dsimp only at done
      split at done
      · cases done
        rfl
      split at done
      · exact closed done
      · exact item done
  | afterDash member first =>
      dsimp only at done
      split at done
      · exact closed done
      · exact item done

theorem isBegun_takeInExpression {start : Nat} {token : Token}
    (outside : reading.mode.isBegun = true)
    (done : reading.takeInExpression start token = .ok later) :
    later.mode.isBegun = true ∨
      token.is '#' = true ∧ later.SkipsComments ∧ later.mode.isComment = true := by
  have item : forall {assembly : Assembly},
      Except.ok (reading.withItem assembly) = (.ok later : Except Fault Reading) ->
        later.mode.isBegun = true := by
    intro assembly done
    cases done
    rfl
  have quantifier : forall {counts : Counts},
      reading.beginQuantifier counts start = .ok later -> later.mode.isBegun = true := by
    intro counts done
    rw [mode_beginQuantifier done]
    rfl
  unfold takeInExpression at done
  dsimp only at done
  split at done
  · exact .inl (item done)
  split at done
  · exact .inl (item done)
  split at done
  · cases done
    exact .inl outside
  split at done
  · rename_i begins
    rw [Bool.and_eq_true] at begins
    cases done
    exact .inr ⟨begins.2, fun _ => begins.1, rfl⟩
  split at done
  · exact .inl (isBegun_beginEscape done)
  refine .inl ?_
  split at done
  · cases done
    rfl
  · cases done
    rfl
  · exact quantifier done
  · exact quantifier done
  · exact quantifier done
  · cases done
    rfl
  · exact item done
  · exact item done
  · exact item done
  · exact item done

/-- What is read after a token: what the token begins, a comment that goes on
or begins with a `#`, or an opening that goes on. -/
theorem mode_takeSettled {token : Token} (done : reading.takeSettled token = .ok later) :
    later.mode.isBegun = true ∨
      (reading.mode.isComment = true ∧ later.mode = reading.mode ∧
        later.assembly = reading.assembly) ∨
      (token.is '#' = true ∧ later.SkipsComments ∧ later.mode.isComment = true) ∨
      ∃ start opening further stop, reading.mode = .opening start opening ∧
        opening.take token stop = .ok (.inl further) ∧ later.mode = .opening start further := by
  rcases reading with ⟨position, mode, assembly⟩
  unfold takeSettled at done
  cases mode with
  | item =>
      have outside : Mode.isBegun .item = true := rfl
      exact (isBegun_takeInExpression outside done).imp_right fun hash => .inr (.inl hash)
  | lineComment =>
      dsimp only at done
      split at done
      · cases done
        exact .inl rfl
      · cases done
        exact .inr (.inl ⟨rfl, rfl, rfl⟩)
  | comment start =>
      dsimp only at done
      split at done
      · cases done
        exact .inl rfl
      · cases done
        exact .inr (.inl ⟨rfl, rfl, rfl⟩)
  | escape place start first escape =>
      cases done
      exact .inl rfl
  | set set place => exact .inl (isBegun_takeInSet done)
  | bounds start bounds =>
      dsimp only at done
      split at done
      · rcases Except.bind_eq_ok_iff.mp done with ⟨_, _, begun⟩
        rw [mode_beginQuantifier begun]
        exact .inl rfl
      · cases done
        exact .inl rfl
  | quantified counts =>
      cases done
      exact .inl rfl
  | opening start opening =>
      rcases Except.bind_eq_ok_iff.mp done with ⟨outcome, decided, opens⟩
      cases outcome with
      | inl further =>
          cases opens
          exact .inr (.inr (.inr ⟨start, opening, further, _, rfl, decided, rfl⟩))
      | inr opened =>
          rcases mode_takeOpened opens with same | ⟨rfl, same⟩
          · rw [same]
            exact .inl rfl
          · have hash := opening.precedes_take token _ _ decided
            have skips : later.SkipsComments := fun comment => nomatch same.symm.trans comment
            refine .inr (.inr (.inl ⟨hash, skips, ?_⟩))
            rw [same]
            rfl

/-- A comment goes on, or it begins with a `#`. -/
theorem comment_takeSettled {token : Token} (done : reading.takeSettled token = .ok later) :
    later.mode.isComment = false ∨
      (later.mode = reading.mode ∧ later.assembly = reading.assembly) ∨
      token.is '#' = true ∧ later.SkipsComments := by
  rcases mode_takeSettled done with begun | goesOn | hash | ⟨_, _, _, _, _, _, same⟩
  · exact .inl (Mode.isComment_of_isBegun begun)
  · exact .inr (.inl goesOn.2)
  · exact .inr (.inr ⟨hash.1, hash.2.1⟩)
  · rw [same]
    exact .inl rfl

theorem skipsComments_takeSettled {token : Token} (skips : reading.SkipsComments)
    (done : reading.takeSettled token = .ok later) : later.SkipsComments := by
  rcases comment_takeSettled done with outside | ⟨mode, assembly⟩ | ⟨_, laterSkips⟩
  · intro comment
    rw [comment] at outside
    cases outside
  · intro comment
    rw [assembly]
    exact skips (mode.symm.trans comment)
  · exact laterSkips

theorem skipsComments_complete {next : Option Token} (skips : reading.SkipsComments)
    (done : reading.complete next = .ok later) : later.SkipsComments := by
  rcases mode_complete done with rfl | same | ⟨_, _, same⟩
  · exact skips
  · exact fun comment => nomatch same.symm.trans comment
  · exact fun comment => nomatch same.symm.trans comment

theorem skipsComments_takeAll {tokens : List Token} (skips : reading.SkipsComments)
    (done : reading.takeAll tokens = .ok later) : later.SkipsComments := by
  induction tokens generalizing reading with
  | nil =>
      cases done
      exact skips
  | cons token rest inductiveHypothesis =>
      rcases takeAll_cons_eq_ok_iff.mp done with ⟨middle, first, others⟩
      rcases take_eq_ok_iff.mp first with ⟨settled, settling, taken⟩
      have settledSkips := skipsComments_complete skips (settle_eq_ok_iff.mp settling).1
      exact inductiveHypothesis (skipsComments_takeSettled settledSkips taken) others

/-- Outside of comments, a text without a `#` stays outside, for both kinds of
comment begin with one. -/
theorem isComment_takeSettled {token : Token} (outside : reading.mode.isComment = false)
    (notHash : token.is '#' = false) (done : reading.takeSettled token = .ok later) :
    later.mode.isComment = false := by
  rcases comment_takeSettled done with same | ⟨mode, _⟩ | ⟨hash, _⟩
  · exact same
  · exact mode ▸ outside
  · exact absurd (hash.symm.trans notHash) nofun

theorem isComment_complete {next : Option Token} (outside : reading.mode.isComment = false)
    (done : reading.complete next = .ok later) : later.mode.isComment = false := by
  rcases mode_complete done with rfl | same | ⟨_, _, same⟩
  · exact outside
  · rw [same]
    rfl
  · rw [same]
    rfl

end Reading
end Regex
end Stencil

import Stencil.Proofs.Reading.Flagging
import Stencil.Proofs.Reading.Parallel
import Stencil.Proofs.Reading.References
import Stencil.Proofs.Reading.Refusal

namespace Stencil
namespace Regex

/-!
Taking on one side what has been taken on the other.  Where readings are
alike, what the left-hand one takes the right-hand one can take as well, and
it notes nothing by it, as long as the left-hand one opens no group that
captures, asks for no captures and sets no flags.  What may be repeated, what
may be closed and what follows an opening parenthesis are the same on both
sides.  If the left-hand one may refer to groups, a right-hand one without any
stops there.

The main statements are `follows_complete` for what ends, and `exists_take`
and `takes_or_stops` for the next token.
-/

open Except (Concur)

/-- Nothing that captures is opened in this mode before the next token or with
it. -/
def Mode.CapturesNot (next : Option Token) : Mode -> Prop
  | .opening _ .parenthesis => next.any (Opening.goesOn .parenthesis) = true
  | .opening _ (.groupName _) => False
  | _ => True

def Mode.DependsNot : Mode -> Prop
  | .opening _ (.conditionName _) => False
  | _ => True

theorem Mode.dependsNot_of_isBegun {mode : Mode} (begun : mode.isBegun = true) : mode.DependsNot := by
  cases mode with
  | opening start opening =>
      cases opening with
      | conditionName characters => cases begun
      | _ => trivial
  | _ => trivial

theorem Mode.dependsNot_of_isComment {mode : Mode} (comment : mode.isComment = true) :
    mode.DependsNot := by
  cases mode with
  | opening start opening => cases comment
  | _ => trivial

/-- Whether the token begins the name of a condition, which is a parenthesis
behind one and a question mark. -/
def Mode.beginsCondition (token : Token) : Mode -> Bool
  | .opening _ .question => token.is '('
  | _ => false

namespace Reading

theorem dependsNot_takeSettled {settled later : Reading} {token : Token}
    (dependsNot : settled.mode.DependsNot) (begins : settled.mode.beginsCondition token = false)
    (done : settled.takeSettled token = .ok later) : later.mode.DependsNot := by
  rcases mode_takeSettled done with
    begun | ⟨_, same, _⟩ | ⟨_, _, comment⟩ | ⟨_, opening, further, _, before, taken, same⟩
  · exact Mode.dependsNot_of_isBegun begun
  · rw [same]
    exact dependsNot
  · exact Mode.dependsNot_of_isComment comment
  · rw [before] at dependsNot begins
    rw [same]
    cases further with
    | conditionName characters =>
        rcases opening.precedes_take _ _ _ taken with ⟨rfl, parenthesis⟩ | ⟨_, rfl⟩
        · cases parenthesis.symm.trans begins
        · exact dependsNot
    | _ => trivial

theorem dependsNot_complete {reading settled : Reading} {token : Token} {next : Option Token}
    (dependsNot : reading.mode.DependsNot) (begins : reading.mode.beginsCondition token = false)
    (done : reading.complete next = .ok settled) :
    settled.mode.DependsNot ∧ settled.mode.beginsCondition token = false := by
  rcases mode_complete done with rfl | same | ⟨_, _, same⟩
  · exact ⟨dependsNot, begins⟩
  · rw [same]
    exact ⟨trivial, rfl⟩
  · rw [same]
    exact ⟨trivial, rfl⟩

/-- No name of a condition is read unless a token begins it.  So one that is
being read has been begun before. -/
theorem dependsNot_take {reading later : Reading} {token : Token}
    (dependsNot : reading.mode.DependsNot) (begins : reading.mode.beginsCondition token = false)
    (done : reading.take token = .ok later) : later.mode.DependsNot := by
  rcases take_eq_ok_iff.mp done with ⟨settled, settling, taken⟩
  rcases dependsNot_complete dependsNot begins (settle_eq_ok_iff.mp settling).1 with
    ⟨settledNot, settledBegins⟩
  exact dependsNot_takeSettled settledNot settledBegins taken

/-- The right-hand side may go on wherever the left-hand side does.  If a
group is open on the left, or something can be repeated, so it is on the
right, where the group neither captures nor depends on a capture. -/
structure Faces (left right : Assembly) : Prop where
  verbose : left.frame.verbose = right.frame.verbose
  outer : left.outer ≠ [] -> right.outer ≠ []
  repeats : left.repeatProblem? = none -> right.repeatProblem? = none
  capturesNot : left.outer ≠ [] -> forall group, right.frame.kind ≠ .capture group
  dependsNot : forall group, right.frame.kind ≠ .conditional group

/-- What is allowed of an assembly was allowed before, and it is not allowed
once something has referred to a group. -/
structure Forgoes (allowed : Assembly -> Prop) : Prop where
  before {first second : Assembly} : first.Becomes second -> allowed second -> allowed first
  referenceNot {reading later : Reading} {group start : Nat} :
    reading.takeMeaning (.reference group) start = .ok later -> ¬ allowed later.assembly
  namedNot {reading later : Reading} {start : Nat} {name : Name} :
    reading.takeOpened start (.reference name) = .ok later -> ¬ allowed later.assembly

theorem forgoes_isPositional : Forgoes Assembly.IsPositional where
  before := Assembly.Becomes.isPositional
  referenceNot := takeMeaning_reference_isPositional_false
  namedNot := takeOpened_reference_isPositional_false

theorem forgoes_isPlain : Forgoes Assembly.IsPlain where
  before := Assembly.Becomes.isPlain
  referenceNot := takeMeaning_reference_isPlain_false
  namedNot := takeOpened_reference_isPlain_false

/-- In this mode no group is opened that captures or depends on a capture, or
it is not allowed. -/
structure OpensNone (allowed : Assembly -> Prop) (next : Option Token) (mode : Mode) : Prop where
  captures : (forall {reading later : Reading} {start : Nat} {name : Option Name},
    reading.takeOpened start (.capture name) = .ok later -> ¬ allowed later.assembly) ∨
      mode.CapturesNot next
  depends : (forall {reading later : Reading} {start : Nat} {name : Name},
    reading.takeOpened start (.conditional name) = .ok later -> ¬ allowed later.assembly) ∨
      mode.DependsNot

/-- What becomes of references: they are not allowed on the left, or the
right-hand side, which has no groups, stops at them. -/
inductive RefersNot (allowed : Assembly -> Prop) (stops : Prop) (right : Assembly) : Prop where
  | forgone (forgoes : Forgoes allowed)
  | stopped (plain : right.IsPlain) (stops : stops)

/-- Where the left-hand side succeeds and what it gives is allowed, the
right-hand side succeeds and notes nothing, or it stops if it may. -/
def Follows (allowed : Assembly -> Prop) (stops : Prop) (before : Assembly)
    (left right : Except Fault Reading) : Prop :=
  forall leftLater, left = .ok leftLater -> allowed leftLater.assembly ->
    (∃ rightLater, right = .ok rightLater ∧ before.SameNotes rightLater.assembly) ∨
      stops ∧ IsInvalid right

namespace Follows

variable {First Second : Type} {allowed : Assembly -> Prop} {stops : Prop} {before : Assembly}

theorem ok {left : Except Fault Reading} {right : Reading}
    (notes : before.SameNotes right.assembly) : Follows allowed stops before left (.ok right) :=
  fun _ _ _ => .inl ⟨right, rfl, notes⟩

theorem error {fault : Fault} {right : Except Fault Reading} :
    Follows allowed stops before (.error fault) right :=
  fun _ impossible => nomatch impossible

theorem excluded {left right : Except Fault Reading}
    (allowedNot : forall {later : Reading}, left = .ok later -> ¬ allowed later.assembly) :
    Follows allowed stops before left right :=
  fun _ done allows => absurd allows (allowedNot done)

theorem stopped {left right : Except Fault Reading} (may : stops) (invalid : IsInvalid right) :
    Follows allowed stops before left right :=
  fun _ _ _ => .inr ⟨may, invalid⟩

/-- A right-hand side that may not stop succeeds, and what it has noted is
what it had noted before. -/
theorem exists_ok {left right : Except Fault Reading} {leftLater : Reading}
    (follows : Follows allowed False before left right) (done : left = .ok leftLater)
    (allows : allowed leftLater.assembly) :
    ∃ rightLater, right = .ok rightLater ∧ before.SameNotes rightLater.assembly :=
  (follows leftLater done allows).resolve_right And.left

theorem ite {condition : Prop} [Decidable condition]
    {left otherLeft right otherRight : Except Fault Reading}
    (positive : Follows allowed stops before left right)
    (negative : Follows allowed stops before otherLeft otherRight) :
    Follows allowed stops before (if condition then left else otherLeft)
      (if condition then right else otherRight) := by
  split
  · exact positive
  · exact negative

theorem bind {related : First -> Second -> Prop} {left : Except Fault First}
    {right : Except Fault Second} {leftNext : First -> Except Fault Reading}
    {rightNext : Second -> Except Fault Reading} (concur : Concur related left right)
    (next : forall first second, related first second ->
      Follows allowed stops before (leftNext first) (rightNext second)) :
    Follows allowed stops before (left >>= leftNext) (right >>= rightNext) := by
  cases concur with
  | ok holds => exact next _ _ holds
  | error => exact .error

end Follows

variable {allowed : Assembly -> Prop} {stops : Prop} {left right : Reading}

theorem isInvalid_takeMeaning_reference (plain : right.assembly.IsPlain) (group start : Nat) :
    IsInvalid (right.takeMeaning (.reference group) start) := by
  unfold takeMeaning
  dsimp only
  split
  · exact ⟨_, _, rfl⟩
  · unfold Assembly.refer
    rw [plain.widths]
    exact ⟨_, _, rfl⟩

theorem isInvalid_takeOpened_reference (plain : right.assembly.IsPlain) (start : Nat) (name : Name) :
    IsInvalid (right.takeOpened start (.reference name)) := by
  unfold takeOpened
  dsimp only
  rw [plain.names]
  exact ⟨_, _, rfl⟩

theorem follows_takeMeaning (left right : Reading) (refersNot : RefersNot allowed stops right.assembly)
    (meaning : Escape.Meaning) (start other : Nat) :
    Follows allowed stops right.assembly (left.takeMeaning meaning start)
      (right.takeMeaning meaning other) := by
  cases meaning with
  | code code => exact .ok (Assembly.sameNotes_push _ _)
  | category category => exact .ok (Assembly.sameNotes_push _ _)
  | anchor anchor => exact .ok (Assembly.sameNotes_push _ _)
  | reference group =>
      cases refersNot with
      | forgone forgoes => exact .excluded forgoes.referenceNot
      | stopped plain may => exact .stopped may (isInvalid_takeMeaning_reference plain _ _)

theorem follows_takeSetItem (left right : Reading) (start other : Nat) (negated : Bool)
    (members : List Member) (place : SetReading.Place) (item : Member) (token : Token) :
    Follows allowed stops right.assembly (left.takeSetItem ⟨start, negated, members⟩ place item token)
      (right.takeSetItem ⟨other, negated, members⟩ place item token) := by
  apply Follows.bind (SetReading.concur_takeItem start other negated members place item token _ _)
  rintro _ _ ⟨later, next, rfl, rfl⟩
  exact .ok (.refl _)

theorem follows_takeEscape (left right : Reading) (refersNot : RefersNot allowed stops right.assembly)
    {place otherPlace : EscapePlace} (places : place.Alike otherPlace) (start other : Nat)
    (token : Token) (meaning : Escape.Meaning) :
    Follows allowed stops right.assembly (left.takeEscape place start token meaning)
      (right.takeEscape otherPlace other token meaning) := by
  cases places with
  | outside => exact follows_takeMeaning left right refersNot meaning start other
  | inSet begun otherBegun negated members setPlace =>
      simp only [takeEscape]
      split
      · exact follows_takeSetItem left right _ _ _ _ _ _ _
      · exact .error

theorem follows_beginEscape (left right : Reading) (refersNot : RefersNot allowed stops right.assembly)
    {place otherPlace : EscapePlace} (places : place.Alike otherPlace) (start other : Nat)
    (token : Token) :
    Follows allowed stops right.assembly (left.beginEscape place start token)
      (right.beginEscape otherPlace other token) := by
  have inSet : (place != .outside) = (otherPlace != .outside) := by
    cases places <;> rfl
  unfold beginEscape
  rw [inSet]
  split
  · exact follows_takeEscape left right refersNot places _ _ _ _
  · exact .ok (.refl _)
  · exact .error

theorem follows_beginSetItem (left right : Reading) (refersNot : RefersNot allowed stops right.assembly)
    (begun otherBegun : Nat) (negated : Bool) (members : List Member) (place : SetReading.Place)
    (start other : Nat) (token : Token) :
    Follows allowed stops right.assembly
      (left.beginSetItem ⟨begun, negated, members⟩ place start token)
      (right.beginSetItem ⟨otherBegun, negated, members⟩ place other token) :=
  .ite (follows_beginEscape left right refersNot (.inSet _ _ _ _ _) _ _ _)
    (follows_takeSetItem left right _ _ _ _ _ _ _)

theorem follows_takeInSet (left right : Reading) (refersNot : RefersNot allowed stops right.assembly)
    (begun otherBegun : Nat) (negated : Bool) (members : List Member) (place : SetReading.Place)
    (start other : Nat) (token : Token) :
    Follows allowed stops right.assembly
      (left.takeInSet ⟨begun, negated, members⟩ place start token)
      (right.takeInSet ⟨otherBegun, negated, members⟩ place other token) := by
  have item : forall (later : List Member) (next : SetReading.Place),
      Follows allowed stops right.assembly
        (left.beginSetItem ⟨begun, negated, later⟩ next start token)
        (right.beginSetItem ⟨otherBegun, negated, later⟩ next other token) :=
    fun later next => follows_beginSetItem left right refersNot _ _ _ later next start other token
  have closed : forall {done : Except Fault Reading} (later : List Member),
      Follows allowed stops right.assembly done
        (.ok (right.withItem (right.assembly.push (Expr.ofMembers negated later)))) :=
    fun _ => .ok (Assembly.sameNotes_push _ _)
  cases place with
  | opened => exact .ite (.ok (.refl _)) (item _ _)
  | beforeItem => exact .ite (closed _) (item _ _)
  | afterItem member first => exact .ite (.ok (.refl _)) (.ite (closed _) (item _ _))
  | afterDash member first => exact .ite (closed _) (item _ _)

theorem follows_beginQuantifier (faces : Faces left.assembly right.assembly) (counts : Counts)
    (start other : Nat) :
    Follows allowed stops right.assembly (left.beginQuantifier counts start)
      (right.beginQuantifier counts other) := by
  unfold beginQuantifier
  split
  · exact .error
  · rename_i repeatable
    rw [faces.repeats repeatable]
    exact .ok (.refl _)

/-- A group is opened alike, unless what is opened captures, depends on a
capture or sets flags. -/
theorem follows_takeOpened (left right : Reading) (refersNot : RefersNot allowed stops right.assembly)
    (start other : Nat) {opened otherOpened : Opened} (alike : opened.Alike otherOpened)
    (capturesNot : forall name later, opened = .capture name ->
      left.takeOpened start (.capture name) = .ok later -> ¬ allowed later.assembly)
    (dependsNot : forall name later, opened = .conditional name ->
      left.takeOpened start (.conditional name) = .ok later -> ¬ allowed later.assembly)
    (flagsNot : forall added, opened ≠ .flags added) :
    Follows allowed stops right.assembly (left.takeOpened start opened)
      (right.takeOpened other otherOpened) := by
  cases alike with
  | unnamed => exact .excluded (capturesNot _ _ rfl)
  | named => exact .excluded (capturesNot _ _ rfl)
  | plain => exact .ok (Assembly.sameNotes_openGroup _ _ _ _)
  | flagged change => exact .ok (Assembly.sameNotes_openGroup _ _ _ _)
  | atomic => exact .ok (Assembly.sameNotes_openGroup _ _ _ _)
  | look behind negated => exact .ok (Assembly.sameNotes_openLook _ _ _ _)
  | conditional => exact .excluded (dependsNot _ _ rfl)
  | comment => exact .ok (.refl _)
  | flags added => exact absurd rfl (flagsNot _)
  | reference =>
      cases refersNot with
      | forgone forgoes => exact .excluded forgoes.namedNot
      | stopped plain may => exact .stopped may (isInvalid_takeOpened_reference plain _ _)

/-- What ends on the left ends on the right, unless it refers to a group that
is not there. -/
theorem follows_complete (refersNot : RefersNot allowed stops right.assembly)
    (modes : left.mode.Alike right.mode) {next : Option Token}
    (opensNone : OpensNone allowed next left.mode) :
    Follows allowed stops right.assembly (left.complete next) (right.complete next) := by
  rcases left with ⟨leftPosition, leftMode, leftAssembly⟩
  rcases right with ⟨rightPosition, rightMode, rightAssembly⟩
  cases modes with
  | escape places start other token escape =>
      refine .ite (.ok (.refl _)) ?_
      apply Follows.bind (Escape.Unfinished.concur_finish _ _ _ _ _)
      rintro meaning _ rfl
      exact follows_takeEscape _ _ refersNot places _ _ _ _
  | bounds start other reading =>
      exact .ite (.ok (.refl _)) (.ok (Assembly.sameNotes_pushCharacters _ _))
  | quantified counts =>
      exact .ite (.ok (.refl _)) (.ok (Assembly.sameNotes_repeatLast _ _ _ _))
  | opening start other opening =>
      cases opening with
      | parenthesis =>
          rcases opensNone.captures with excluded | goesOn
          · exact .ite (.ok (.refl _)) (.excluded excluded)
          · have further : next.any (Opening.goesOn .parenthesis) = true := goesOn
            unfold complete
            simp only [further, if_true]
            exact .ok (.refl _)
      | _ => exact .ok (.refl _)
  | _ => exact .ok (.refl _)

/-- Where nothing has been noted about groups, none has been opened that
captures or depends on a capture. -/
theorem opensNone_of_isPlain (next : Option Token) (mode : Mode) :
    OpensNone Assembly.IsPlain next mode :=
  ⟨.inl takeOpened_capture_isPlain_false, .inl takeOpened_conditional_isPlain_false⟩

theorem opensNone_of_isPositional {next : Option Token} {mode : Mode}
    (capturesNot : mode.CapturesNot next) : OpensNone Assembly.IsPositional next mode :=
  ⟨.inr capturesNot, .inl takeOpened_conditional_isPositional_false⟩

theorem opensNone_complete {next : Option Token} {settled : Reading}
    (opensNone : OpensNone allowed next left.mode) (done : left.complete next = .ok settled) :
    OpensNone allowed next settled.mode := by
  rcases mode_complete done with rfl | same | ⟨_, _, same⟩
  · exact opensNone
  · rw [same]
    exact ⟨.inr trivial, .inr trivial⟩
  · rw [same]
    exact ⟨.inr trivial, .inr trivial⟩

/-- What is not forbidden on the left is not forbidden on the right. -/
theorem refusal?_eq_none (modes : left.mode.Alike right.mode)
    (faces : Faces left.assembly right.assembly) {token : Token}
    (allowed : left.refusal? (some token) = none) : right.refusal? (some token) = none := by
  rcases left with ⟨leftPosition, leftMode, leftAssembly⟩
  rcases right with ⟨rightPosition, rightMode, rightAssembly⟩
  cases modes with
  | item =>
      have branches : rightAssembly.hasAllBranches = false := by
        unfold Assembly.hasAllBranches
        split
        · rename_i group same
          exact absurd same (faces.dependsNot group)
        · rfl
      have closes : (token.is ')' && rightAssembly.outer.isEmpty) = false := by
        rw [Bool.and_eq_false_imp]
        intro closing
        have opened := faces.outer (outer_ne_nil_of_refusal? rfl allowed closing)
        exact List.isEmpty_eq_false_iff.mpr opened
      unfold refusal?
      simp only [branches, closes, Bool.and_false, Bool.false_eq_true, if_false]
  | _ => rfl

theorem follows_takeInExpression (refersNot : RefersNot allowed stops right.assembly)
    (faces : Faces left.assembly right.assembly) (start other : Nat) (token : Token)
    (leftOuter : token.is ')' = true -> left.assembly.outer ≠ []) :
    Follows allowed stops right.assembly (left.takeInExpression start token)
      (right.takeInExpression other token) := by
  unfold takeInExpression
  dsimp only
  rw [faces.verbose]
  refine .ite (.ok (Assembly.sameNotes_nextBranch _)) ?_
  split
  · rename_i closes
    exact .ok (Assembly.sameNotes_close _ (faces.capturesNot (leftOuter closes)))
  refine .ite (.ok (.refl _)) ?_
  refine .ite (.ok (.refl _)) ?_
  refine .ite (follows_beginEscape left right refersNot .outside _ _ _) ?_
  split
  · exact .ok (.refl _)
  · exact .ok (.refl _)
  · exact follows_beginQuantifier faces _ _ _
  · exact follows_beginQuantifier faces _ _ _
  · exact follows_beginQuantifier faces _ _ _
  · exact .ok (.refl _)
  · exact .ok (Assembly.sameNotes_push _ _)
  · exact .ok (Assembly.sameNotes_push _ _)
  · exact .ok (Assembly.sameNotes_push _ _)
  · exact .ok (Assembly.sameNotes_push _ _)

theorem follows_takeSettled (refersNot : RefersNot allowed stops right.assembly)
    (modes : left.mode.Alike right.mode) (faces : Faces left.assembly right.assembly) {token : Token}
    (leftAllowed : left.refusal? (some token) = none)
    (opensNone : OpensNone allowed (some token) left.mode)
    (flagsNot : left.setsFlags token = false) :
    Follows allowed stops right.assembly (left.takeSettled token) (right.takeSettled token) := by
  rcases left with ⟨leftPosition, leftMode, leftAssembly⟩
  rcases right with ⟨rightPosition, rightMode, rightAssembly⟩
  let leftPast : Reading := ⟨leftPosition + token.length, leftMode, leftAssembly⟩
  let rightPast : Reading := ⟨rightPosition + token.length, rightMode, rightAssembly⟩
  have past : Faces leftPast.assembly rightPast.assembly := faces
  have pastRefers : RefersNot allowed stops rightPast.assembly := refersNot
  cases modes with
  | item =>
      have leftOuter := outer_ne_nil_of_refusal? rfl leftAllowed
      exact follows_takeInExpression pastRefers past _ _ token leftOuter
  | lineComment =>
      simp only [takeSettled]
      split <;> exact .ok (.refl _)
  | comment start other =>
      simp only [takeSettled]
      split <;> exact .ok (.refl _)
  | escape places start other first escape => exact .ok (.refl _)
  | set start other negated members place =>
      exact follows_takeInSet leftPast rightPast pastRefers _ _ _ _ _ _ _ _
  | bounds start other reading =>
      refine .ite ?_ (.ok (.refl _))
      apply Follows.bind (reading.concur_counts _ _)
      rintro counts _ rfl
      exact follows_beginQuantifier past _ _ _
  | quantified counts => exact .ok (Assembly.sameNotes_repeatLast _ _ _ _)
  | opening start other opening =>
      intro leftLater done
      rcases Except.bind_eq_ok_iff.mp done with ⟨outcome, decided, opens⟩
      rcases (opening.concur_take token _ (rightPosition + token.length)).follows decided with
        ⟨otherOutcome, otherDecided, outcomes⟩
      unfold takeSettled
      dsimp only
      rw [otherDecided]
      cases outcomes with
      | unfinished further => exact fun _ => .inl ⟨_, rfl, .refl _⟩
      | opened alike =>
          have precedes := opening.precedes_take token _ _ decided
          apply follows_takeOpened leftPast rightPast pastRefers start other alike ?_ ?_ ?_ leftLater
            opens
          · rintro name later rfl taken
            rcases precedes with ⟨characters, rfl⟩
            exact opensNone.captures.elim (fun excluded => excluded taken) False.elim
          · rintro name later rfl taken
            rcases precedes with ⟨characters, rfl⟩
            exact opensNone.depends.elim (fun excluded => excluded taken) False.elim
          · rintro added rfl
            rcases precedes with ⟨closes, begun, rfl⟩
            cases closes.symm.trans flagsNot

/-- What the left-hand reading takes, the right-hand one takes as well, unless
it stops. -/
theorem follows_take (allowed : Assembly -> Prop) {comparison : Comparison}
    (congruent : comparison.IsCongruent)
    (facing : forall {first second : Assembly}, comparison.Similar first second ->
      Faces first second)
    (alike : Alike comparison left right) (plain : right.assembly.IsPlain)
    (refersNot : forall {later : Assembly}, later.IsPlain -> RefersNot allowed stops later)
    {token : Token} {settled leftLater : Reading} (settling : left.settle (some token) = .ok settled)
    (done : settled.takeSettled token = .ok leftLater)
    (settledAllowed : allowed settled.assembly) (laterAllowed : allowed leftLater.assembly)
    (opensNone : OpensNone allowed (some token) left.mode)
    (flagsNot : settled.setsFlags token = false) :
    (∃ rightLater, right.take token = .ok rightLater ∧
      right.assembly.SameNotes rightLater.assembly) ∨ stops ∧ IsInvalid (right.take token) := by
  rcases settle_eq_ok_iff.mp settling with ⟨completing, goesOn⟩
  rcases follows_complete (refersNot plain) alike.mode opensNone settled completing settledAllowed with
    ⟨rightSettled, rightCompleting, notes⟩ | ⟨may, problem, position, stopped⟩
  · have settledPlain := notes.isPlain plain
    have settledAlike := agree_complete congruent alike (some token) settled rightSettled completing
      rightCompleting settledPlain
    have faces := facing settledAlike.assembly
    have rightGoesOn := refusal?_eq_none settledAlike.mode faces goesOn
    have rightSettling := settle_eq_ok_iff.mpr ⟨rightCompleting, rightGoesOn⟩
    have taken : right.take token = rightSettled.takeSettled token := by
      unfold take
      rw [rightSettling]
      rfl
    rw [taken]
    exact (follows_takeSettled (refersNot settledPlain) settledAlike.mode faces goesOn
      (opensNone_complete opensNone completing) flagsNot leftLater done laterAllowed).imp_left
        fun ⟨rightLater, rightDone, laterNotes⟩ => ⟨rightLater, rightDone, notes.trans laterNotes⟩
  · refine .inr ⟨may, problem, position, ?_⟩
    unfold take settle
    rw [stopped]
    rfl

/-- What the left-hand reading takes, the right-hand one takes as well, and it
notes nothing. -/
theorem exists_take {comparison : Comparison} (congruent : comparison.IsCongruent)
    (facing : forall {first second : Assembly}, comparison.Similar first second ->
      Faces first second)
    (alike : Alike comparison left right) (plain : right.assembly.IsPlain) {token : Token}
    {settled leftLater : Reading} (settling : left.settle (some token) = .ok settled)
    (done : settled.takeSettled token = .ok leftLater)
    (positional : leftLater.assembly.IsPositional)
    (capturesNot : left.mode.CapturesNot (some token))
    (flagsNot : settled.setsFlags token = false) :
    ∃ rightLater, right.take token = .ok rightLater ∧
      right.assembly.SameNotes rightLater.assembly := by
  have outcome : _ ∨ False ∧ IsInvalid (right.take token) :=
    follows_take _ congruent facing alike plain (fun _ => .forgone forgoes_isPositional) settling done
      ((becomes_takeSettled done).isPositional positional) positional
      (opensNone_of_isPositional capturesNot) flagsNot
  exact outcome.resolve_right And.left

/-- What the left-hand reading takes, a right-hand one without groups takes as
well and stays alike without them, or it meets something invalid. -/
theorem takes_or_stops {comparison : Comparison} (congruent : comparison.IsCongruent)
    (facing : forall {first second : Assembly}, comparison.Similar first second ->
      Faces first second)
    (alike : Alike comparison left right) (plain : right.assembly.IsPlain) {token : Token}
    {settled leftLater : Reading} (settling : left.settle (some token) = .ok settled)
    (done : settled.takeSettled token = .ok leftLater)
    (capturesNot : left.mode.CapturesNot (some token)) (dependsNot : left.mode.DependsNot) :
    (∃ rightLater, right.take token = .ok rightLater ∧ Alike comparison leftLater rightLater ∧
      rightLater.assembly.IsPlain) ∨ IsInvalid (right.take token) := by
  have leftTaken : left.take token = .ok leftLater := take_eq_ok_iff.mpr ⟨settled, settling, done⟩
  have stays : forall {rightLater : Reading}, right.take token = .ok rightLater ->
      rightLater.assembly.IsPlain -> Alike comparison leftLater rightLater :=
    alike_take congruent alike leftTaken
  cases flags : settled.setsFlags token with
  | false =>
      rcases follows_take (fun _ => True) congruent facing alike plain
        (fun later => .stopped later trivial) settling done trivial trivial
        ⟨.inr capturesNot, .inr dependsNot⟩ flags with
        ⟨rightLater, taken, notes⟩ | ⟨_, stopped⟩
      · have laterPlain := notes.isPlain plain
        exact .inl ⟨rightLater, taken, stays taken laterPlain, laterPlain⟩
      · exact .inr stopped
  | true =>
      rcases mode_of_setsFlags (settle_eq_ok_iff.mp settling).1 flags with
        ⟨start, added, begins, closes⟩
      rcases alike.mode.exists_opening begins with ⟨other, rightBegins⟩
      have taken := take_flags rightBegins closes
      split at taken
      · have laterPlain : (right.assembly.setFlags added).IsPlain :=
          ⟨plain.groupCount, plain.names, plain.widths, plain.conditions⟩
        exact .inl ⟨_, taken, stays taken laterPlain, laterPlain⟩
      · exact .inr ⟨_, _, taken⟩

end Reading
end Regex
end Stencil

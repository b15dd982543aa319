import Stencil.Proofs.Reading.Comparison

namespace Stencil
namespace Regex

/-!
Taking the same tokens on two sides.  Readings that are in the middle of the
same thing stay so with every token that both take, and what relates the two
assemblies is kept if it is kept by each of the things that reading does with
an assembly.  `IsKept` lists these, so a relation has to be looked at there
only.  A comparison may leave something out: that leads to assemblies which
are not allowed, and nothing is said about those.

The main statements are `paired_take` for one token and `paired_takeAll` for
several.
-/

open Except (Agree)

def GroupKind.isQuiet : GroupKind -> Bool
  | .plain => true
  | .flagged _ => true
  | .atomic => true
  | _ => false

namespace Assembly

/-- The assemblies are related, should the right-hand one be allowed.  What is
allowed is asked of the end, and was so all along. -/
def RelatedIf (allowed : Assembly -> Prop) (related : Assembly -> Assembly -> Prop)
    (left right : Assembly) : Prop :=
  allowed right -> related left right

/-- What is related stays so with everything that reading does on both sides
at once.  There is a clause for each such thing; where one of the sides may
fail, or may come to what is not allowed, nothing is claimed. -/
structure IsKept (allowed : Assembly -> Prop) (related : Assembly -> Assembly -> Prop) : Prop where
  before {first second : Assembly} : first.Becomes second -> allowed second -> allowed first
  verbose {left right : Assembly} : related left right -> left.frame.verbose = right.frame.verbose
  push {left right : Assembly} {item : Expr} : related left right -> item.isSimple = true ->
    related (left.push item) (right.push item)
  repeatLast {left right : Assembly} (mode : RepeatMode) (low : Nat) (high : Option Nat) :
    related left right -> related (left.repeatLast mode low high) (right.repeatLast mode low high)
  nextBranch {left right : Assembly} : related left right -> related left.nextBranch right.nextBranch
  openGroup {left right : Assembly} {kind : GroupKind} (start other : Nat) (verbose : Bool) :
    related left right -> kind.isQuiet = true ->
    related (left.openGroup kind start verbose) (right.openGroup kind other verbose)
  openLook {left right : Assembly} (behind negated : Bool) (start other : Nat) :
    related left right ->
    related (left.openLook behind negated start) (right.openLook behind negated other)
  close {left right : Assembly} : related left right -> left.outer ≠ [] -> right.outer ≠ [] ->
    related left.close right.close
  setFlags {left right : Assembly} (added : Flags) : related left right -> left.isAtStart = true ->
    right.isAtStart = true -> related (left.setFlags added) (right.setFlags added)
  openCapture {left right : Assembly} (name : Option String) (start other : Nat) :
    related left right -> Agree (RelatedIf allowed related) (left.openCapture name start)
      (right.openCapture name other)
  refer {left right : Assembly} (group start stop other otherStop : Nat) : related left right ->
    Agree (RelatedIf allowed related) (left.refer group start stop)
      (right.refer group other otherStop)
  named {left right : Assembly} {name : String} {group other : Nat} : related left right ->
    allowed right -> left.names.lookup name = some group -> right.names.lookup name = some other ->
    group = other
  openConditional {left right leftNoting rightNoting : Assembly} {characters : List Char}
    {position otherPosition group otherGroup : Nat} (start other : Nat) (verbose : Bool) :
    related left right ->
    Reading.conditionGroup left ⟨characters, position⟩ = .ok (group, leftNoting) ->
    Reading.conditionGroup right ⟨characters, otherPosition⟩ = .ok (otherGroup, rightNoting) ->
    allowed rightNoting ->
    related (leftNoting.openGroup (.conditional group) start verbose)
      (rightNoting.openGroup (.conditional otherGroup) other verbose)

end Assembly

namespace Reading

open Assembly (RelatedIf IsKept)

/-- The readings are in the middle of the same thing and their assemblies are
related.  They need not have come as far in their texts. -/
structure Paired (related : Assembly -> Assembly -> Prop) (left right : Reading) : Prop where
  mode : left.mode.Alike right.mode
  assembly : related left.assembly right.assembly

variable {allowed : Assembly -> Prop} {related : Assembly -> Assembly -> Prop}
  {left right : Reading}

theorem Paired.ifAllowed (paired : Paired related left right) :
    Paired (RelatedIf allowed related) left right :=
  ⟨paired.mode, fun _ => paired.assembly⟩

theorem agree_ifAllowed {first second : Except Fault Reading}
    (agree : Agree (Paired related) first second) :
    Agree (Paired (RelatedIf allowed related)) first second :=
  fun left right leftDone rightDone => (agree left right leftDone rightDone).ifAllowed

theorem paired_withItem {leftLater rightLater : Assembly} (later : related leftLater rightLater) :
    Paired related (left.withItem leftLater) (right.withItem rightLater) :=
  ⟨.item, later⟩

theorem agree_takeMeaning (kept : IsKept allowed related)
    (holds : related left.assembly right.assembly) (meaning : Escape.Meaning) (start other : Nat) :
    Agree (Paired (RelatedIf allowed related)) (left.takeMeaning meaning start)
      (right.takeMeaning meaning other) := by
  cases meaning with
  | code code => exact .ok ⟨.item, fun _ => kept.push holds rfl⟩
  | category category => exact .ok ⟨.item, fun _ => kept.push holds rfl⟩
  | anchor anchor => exact .ok ⟨.item, fun _ => kept.push holds rfl⟩
  | reference group =>
      unfold takeMeaning
      dsimp only
      split
      · exact .errorLeft
      · split
        · exact .errorRight
        · exact .map (kept.refer group _ _ _ _ holds) fun _ _ => paired_withItem

theorem agree_takeSetItem (holds : related left.assembly right.assembly) (start other : Nat)
    (negated : Bool) (members : List Member) (place : SetReading.Place) (item : Member)
    (token : Token) :
    Agree (Paired related) (left.takeSetItem ⟨start, negated, members⟩ place item token)
      (right.takeSetItem ⟨other, negated, members⟩ place item token) := by
  refine .bind (SetReading.concur_takeItem start other negated members place item token _ _).agree ?_
  rintro _ _ ⟨later, next, rfl, rfl⟩
  exact .ok ⟨.set _ _ _ _ _, holds⟩

theorem agree_takeEscape (kept : IsKept allowed related)
    (holds : related left.assembly right.assembly) {place otherPlace : EscapePlace}
    (places : place.Alike otherPlace) (start other : Nat) (token : Token)
    (meaning : Escape.Meaning) :
    Agree (Paired (RelatedIf allowed related)) (left.takeEscape place start token meaning)
      (right.takeEscape otherPlace other token meaning) := by
  cases places with
  | outside => exact agree_takeMeaning kept holds meaning start other
  | inSet begun otherBegun negated members setPlace =>
      simp only [takeEscape]
      split
      · exact agree_ifAllowed (agree_takeSetItem holds _ _ _ _ _ _ _)
      · exact .errorLeft

theorem paired_takeQuantifier (kept : IsKept allowed related)
    (holds : related left.assembly right.assembly) (counts : Counts) (mode : RepeatMode) :
    Paired related (left.takeQuantifier counts mode) (right.takeQuantifier counts mode) :=
  ⟨.item, kept.repeatLast _ _ _ holds⟩

theorem agree_takeOpened_capture (kept : IsKept allowed related)
    (holds : related left.assembly right.assembly) (start other : Nat) {name otherName : Option Name}
    (same : name.map Name.text = otherName.map Name.text) :
    Agree (Paired (RelatedIf allowed related)) (left.takeOpened start (.capture name))
      (right.takeOpened other (.capture otherName)) := by
  have agree := kept.openCapture (name.map Name.text) start other holds
  simp only [takeOpened, ← same]
  split
  · rename_i leftLater leftOpened
    split
    · rename_i rightLater rightOpened
      exact .ok (paired_withItem (agree _ _ leftOpened rightOpened))
    · exact .errorRight
  · exact .errorLeft

/-- A condition is entered on both sides if nothing is wrong with its
group. -/
theorem agree_takeOpened_conditional (kept : IsKept allowed related)
    (holds : related left.assembly right.assembly) (start other : Nat) (characters : List Char)
    (position otherPosition : Nat) :
    Agree (Paired (RelatedIf allowed related))
      (left.takeOpened start (.conditional ⟨characters, position⟩))
      (right.takeOpened other (.conditional ⟨characters, otherPosition⟩)) := by
  intro leftLater rightLater leftDone rightDone
  rcases takeOpened_conditional_eq_ok leftDone with ⟨group, leftNoting, leftNamed, rfl⟩
  rcases takeOpened_conditional_eq_ok rightDone with ⟨otherGroup, rightNoting, rightNamed, rfl⟩
  refine paired_withItem fun allows => ?_
  rw [kept.verbose holds]
  have entered : rightNoting.Becomes
      (rightNoting.openGroup (.conditional otherGroup) other right.assembly.frame.verbose) :=
    .single (.openGroup _ _ _ nofun)
  exact kept.openConditional start other _ holds leftNamed rightNamed (kept.before entered allows)

/-- A reference by a name is to the same group on both sides. -/
theorem agree_takeOpened_reference (kept : IsKept allowed related)
    (holds : related left.assembly right.assembly) (start other : Nat) (characters : List Char)
    (position otherPosition : Nat) :
    Agree (Paired (RelatedIf allowed related))
      (left.takeOpened start (.reference ⟨characters, position⟩))
      (right.takeOpened other (.reference ⟨characters, otherPosition⟩)) := by
  intro leftLater rightLater leftDone rightDone
  simp only [takeOpened] at leftDone rightDone
  split at leftDone
  · cases leftDone
  · rename_i group leftNamed
    split at rightDone
    · cases rightDone
    · rename_i otherGroup rightNamed
      rcases Except.map_eq_ok_iff.mp leftDone with ⟨leftReferring, leftReferred, rfl⟩
      rcases Except.map_eq_ok_iff.mp rightDone with ⟨rightReferring, rightReferred, rfl⟩
      refine paired_withItem fun allows => ?_
      have allowedNow := kept.before (Assembly.becomes_refer rightReferred) allows
      cases kept.named holds allowedNow leftNamed rightNamed
      exact kept.refer group _ _ _ _ holds _ _ leftReferred rightReferred allows

theorem agree_takeOpened (kept : IsKept allowed related)
    (holds : related left.assembly right.assembly) (start other : Nat)
    {opened otherOpened : Opened} (alike : opened.Alike otherOpened) :
    Agree (Paired (RelatedIf allowed related)) (left.takeOpened start opened)
      (right.takeOpened other otherOpened) := by
  cases alike with
  | unnamed => exact agree_takeOpened_capture kept holds start other rfl
  | named characters position otherPosition =>
      exact agree_takeOpened_capture kept holds start other rfl
  | plain =>
      simp only [takeOpened, kept.verbose holds]
      exact .ok (paired_withItem fun _ => kept.openGroup _ _ _ holds rfl)
  | flagged change =>
      simp only [takeOpened, kept.verbose holds]
      exact .ok (paired_withItem fun _ => kept.openGroup _ _ _ holds rfl)
  | atomic =>
      simp only [takeOpened, kept.verbose holds]
      exact .ok (paired_withItem fun _ => kept.openGroup _ _ _ holds rfl)
  | look behind negated =>
      exact .ok (paired_withItem fun _ => kept.openLook behind negated _ _ holds)
  | conditional characters position otherPosition =>
      exact agree_takeOpened_conditional kept holds _ _ _ _ _
  | comment => exact .ok ⟨.comment _ _, fun _ => holds⟩
  | flags added =>
      simp only [takeOpened]
      split
      · rename_i leftStart
        split
        · rename_i rightStart
          exact .ok (paired_withItem fun _ => kept.setFlags added holds leftStart rightStart)
        · exact .errorRight
      · exact .errorLeft
  | reference characters position otherPosition =>
      exact agree_takeOpened_reference kept holds _ _ _ _ _

theorem related_pushCharacters (kept : IsKept allowed related) {first second : Assembly}
    (holds : related first second) (characters : List Char) :
    related (first.pushCharacters characters) (second.pushCharacters characters) := by
  unfold Assembly.pushCharacters
  induction characters generalizing first second with
  | nil => exact holds
  | cons character rest inductiveHypothesis => exact inductiveHypothesis (kept.push holds rfl)

theorem Paired.agree_complete (paired : Paired related left right) (kept : IsKept allowed related)
    (next : Option Token) :
    Agree (Paired (RelatedIf allowed related)) (left.complete next) (right.complete next) := by
  rcases paired with ⟨modes, holds⟩
  rcases left with ⟨leftPosition, leftMode, leftAssembly⟩
  rcases right with ⟨rightPosition, rightMode, rightAssembly⟩
  cases modes with
  | item => exact .ok ⟨.item, fun _ => holds⟩
  | lineComment => exact .ok ⟨.lineComment, fun _ => holds⟩
  | comment start other => exact .ok ⟨.comment _ _, fun _ => holds⟩
  | escape places start other token escape =>
      refine .ite (.ok ⟨.escape places _ _ _ _, fun _ => holds⟩) ?_
      refine .bind (Escape.Unfinished.concur_finish _ _ _ _ _).agree ?_
      rintro meaning _ rfl
      exact agree_takeEscape kept holds places start other token meaning
  | set start other negated members place => exact .ok ⟨.set _ _ _ _ _, fun _ => holds⟩
  | bounds start other reading =>
      refine .ite (.ok ⟨.bounds _ _ _, fun _ => holds⟩) ?_
      exact .ok (paired_withItem fun _ => related_pushCharacters kept holds _)
  | quantified counts =>
      refine .ite (.ok ⟨.quantified _, fun _ => holds⟩) ?_
      exact .ok (paired_takeQuantifier kept holds counts .greedy).ifAllowed
  | opening start other opening =>
      cases opening with
      | parenthesis =>
          refine .ite (.ok ⟨.opening _ _ _, fun _ => holds⟩) ?_
          exact agree_takeOpened kept holds start other .unnamed
      | _ => exact .ok ⟨.opening _ _ _, fun _ => holds⟩

theorem agree_beginQuantifier (holds : related left.assembly right.assembly) (counts : Counts)
    (start other : Nat) :
    Agree (Paired related) (left.beginQuantifier counts start)
      (right.beginQuantifier counts other) := by
  unfold beginQuantifier
  split
  · exact .errorLeft
  · split
    · exact .errorRight
    · exact .ok ⟨.quantified _, holds⟩

theorem agree_beginEscape (kept : IsKept allowed related)
    (holds : related left.assembly right.assembly) {place otherPlace : EscapePlace}
    (places : place.Alike otherPlace) (start other : Nat) (token : Token) :
    Agree (Paired (RelatedIf allowed related)) (left.beginEscape place start token)
      (right.beginEscape otherPlace other token) := by
  have inSet : (place != .outside) = (otherPlace != .outside) := by
    cases places <;> rfl
  unfold beginEscape
  rw [inSet]
  split
  · exact agree_takeEscape kept holds places _ _ _ _
  · exact .ok ⟨.escape places _ _ _ _, fun _ => holds⟩
  · exact .errorLeft

/-- A closing parenthesis is only taken where there is a group to close;
anywhere else it is refused before. -/
theorem outer_ne_nil_of_refusal? {token : Token} (item : right.mode = .item)
    (allowed : right.refusal? (some token) = none) (closes : token.is ')' = true) :
    right.assembly.outer ≠ [] := by
  intro outermost
  simp only [refusal?, item, closes, outermost, List.isEmpty_nil, Bool.and_self, if_true] at allowed
  split at allowed <;> cases allowed

theorem agree_takeInExpression (kept : IsKept allowed related)
    (holds : related left.assembly right.assembly) (token : Token)
    (leftOuter : token.is ')' = true -> left.assembly.outer ≠ [])
    (rightOuter : token.is ')' = true -> right.assembly.outer ≠ [])
    (mode : left.mode.Alike right.mode) (start other : Nat) :
    Agree (Paired (RelatedIf allowed related)) (left.takeInExpression start token)
      (right.takeInExpression other token) := by
  have quantifier : forall counts : Counts, Agree (Paired (RelatedIf allowed related))
      (left.beginQuantifier counts start) (right.beginQuantifier counts other) :=
    fun counts => agree_ifAllowed (agree_beginQuantifier holds counts start other)
  unfold takeInExpression
  dsimp only
  rw [kept.verbose holds]
  refine .ite (.ok (paired_withItem fun _ => kept.nextBranch holds)) ?_
  split
  · rename_i closes
    exact .ok (paired_withItem fun _ => kept.close holds (leftOuter closes) (rightOuter closes))
  refine .ite (.ok ⟨mode, fun _ => holds⟩) ?_
  refine .ite (.ok ⟨.lineComment, fun _ => holds⟩) ?_
  refine .ite (agree_beginEscape kept holds .outside _ _ _) ?_
  split
  · exact .ok ⟨.set _ _ _ _ _, fun _ => holds⟩
  · exact .ok ⟨.opening _ _ _, fun _ => holds⟩
  · exact quantifier _
  · exact quantifier _
  · exact quantifier _
  · exact .ok ⟨.bounds _ _ _, fun _ => holds⟩
  · exact .ok (paired_withItem fun _ => kept.push holds rfl)
  · exact .ok (paired_withItem fun _ => kept.push holds rfl)
  · exact .ok (paired_withItem fun _ => kept.push holds rfl)
  · exact .ok (paired_withItem fun _ => kept.push holds rfl)

theorem agree_beginSetItem (kept : IsKept allowed related)
    (holds : related left.assembly right.assembly) (begun otherBegun : Nat) (negated : Bool)
    (members : List Member) (place : SetReading.Place) (start other : Nat) (token : Token) :
    Agree (Paired (RelatedIf allowed related))
      (left.beginSetItem ⟨begun, negated, members⟩ place start token)
      (right.beginSetItem ⟨otherBegun, negated, members⟩ place other token) :=
  .ite (agree_beginEscape kept holds (.inSet _ _ _ _ _) _ _ _)
    (agree_ifAllowed (agree_takeSetItem holds _ _ _ _ _ _ _))

theorem agree_takeInSet (kept : IsKept allowed related)
    (holds : related left.assembly right.assembly) (begun otherBegun : Nat) (negated : Bool)
    (members : List Member) (place : SetReading.Place) (start other : Nat) (token : Token) :
    Agree (Paired (RelatedIf allowed related))
      (left.takeInSet ⟨begun, negated, members⟩ place start token)
      (right.takeInSet ⟨otherBegun, negated, members⟩ place other token) := by
  have item := fun (later : List Member) (next : SetReading.Place) =>
    agree_beginSetItem kept holds begun otherBegun negated later next start other token
  have closed : forall later : List Member, Paired (RelatedIf allowed related)
      (left.withItem (left.assembly.push (Expr.ofMembers negated later)))
      (right.withItem (right.assembly.push (Expr.ofMembers negated later))) :=
    fun later =>
      paired_withItem fun _ => kept.push holds (Expr.isSimple_ofMembers negated later)
  have goesOn : forall (later : Bool) (next : SetReading.Place), Paired (RelatedIf allowed related)
      (left.withMode (.set ⟨begun, later, members⟩ next))
      (right.withMode (.set ⟨otherBegun, later, members⟩ next)) :=
    fun _ _ => ⟨.set _ _ _ _ _, fun _ => holds⟩
  cases place with
  | opened => exact .ite (.ok (goesOn _ _)) (item _ _)
  | beforeItem => exact .ite (.ok (closed _)) (item _ _)
  | afterItem member first => exact .ite (.ok (goesOn _ _)) (.ite (.ok (closed _)) (item _ _))
  | afterDash member first => exact .ite (.ok (closed _)) (item _ _)

theorem agree_takeSettled (kept : IsKept allowed related) (paired : Paired related left right)
    (token : Token) (leftAllowed : left.refusal? (some token) = none)
    (rightAllowed : right.refusal? (some token) = none) :
    Agree (Paired (RelatedIf allowed related)) (left.takeSettled token)
      (right.takeSettled token) := by
  rcases paired with ⟨modes, holds⟩
  rcases left with ⟨leftPosition, leftMode, leftAssembly⟩
  rcases right with ⟨rightPosition, rightMode, rightAssembly⟩
  let leftPast : Reading := ⟨leftPosition + token.length, leftMode, leftAssembly⟩
  let rightPast : Reading := ⟨rightPosition + token.length, rightMode, rightAssembly⟩
  have past : related leftPast.assembly rightPast.assembly := holds
  cases modes with
  | item =>
      have leftOuter := outer_ne_nil_of_refusal? rfl leftAllowed
      have rightOuter := outer_ne_nil_of_refusal? rfl rightAllowed
      exact agree_takeInExpression kept past token leftOuter rightOuter .item leftPosition
        rightPosition
  | lineComment =>
      simp only [takeSettled]
      split
      · exact .ok ⟨.item, fun _ => holds⟩
      · exact .ok ⟨.lineComment, fun _ => holds⟩
  | comment start other =>
      simp only [takeSettled]
      split
      · exact .ok ⟨.item, fun _ => holds⟩
      · exact .ok ⟨.comment _ _, fun _ => holds⟩
  | escape places start other first escape =>
      exact .ok ⟨.escape places _ _ _ _, fun _ => holds⟩
  | set start other negated members place =>
      exact agree_takeInSet kept past start other negated members place leftPosition rightPosition
        token
  | bounds start other reading =>
      refine .ite (.bind (reading.concur_counts _ _).agree ?_) (.ok ⟨.bounds _ _ _, fun _ => holds⟩)
      rintro counts _ rfl
      exact agree_ifAllowed (agree_beginQuantifier past counts start other)
  | quantified counts =>
      have step := paired_takeQuantifier kept past counts
        (if token.is '?' then .lazy else .possessive)
      exact .ok step.ifAllowed
  | opening start other opening =>
      refine .bind (opening.concur_take token _ _).agree ?_
      intro first second outcomes
      cases outcomes with
      | unfinished opening => exact .ok ⟨.opening _ _ _, fun _ => holds⟩
      | opened alike => exact agree_takeOpened kept past start other alike

/-- Readings stay paired with a token that both take, if what comes of it on
the right is allowed. -/
theorem paired_take (kept : IsKept allowed related) (paired : Paired related left right)
    {token : Token} {leftLater rightLater : Reading} (leftDone : left.take token = .ok leftLater)
    (rightDone : right.take token = .ok rightLater) (allows : allowed rightLater.assembly) :
    Paired related leftLater rightLater := by
  rcases take_eq_ok_iff.mp leftDone with ⟨leftSettled, leftSettling, leftTaken⟩
  rcases take_eq_ok_iff.mp rightDone with ⟨rightSettled, rightSettling, rightTaken⟩
  rcases settle_eq_ok_iff.mp leftSettling with ⟨leftComplete, leftAllowed⟩
  rcases settle_eq_ok_iff.mp rightSettling with ⟨rightComplete, rightAllowed⟩
  rcases paired.agree_complete kept (some token) _ _ leftComplete rightComplete with
    ⟨settledModes, settledHolds⟩
  have settledAllows := kept.before (becomes_takeSettled rightTaken) allows
  rcases agree_takeSettled kept ⟨settledModes, settledHolds settledAllows⟩ token leftAllowed
    rightAllowed _ _ leftTaken rightTaken with ⟨modes, holds⟩
  exact ⟨modes, holds allows⟩

/-- Readings stay paired with all tokens that both take. -/
theorem paired_takeAll (kept : IsKept allowed related) (paired : Paired related left right)
    {tokens : List Token} {leftLater rightLater : Reading}
    (leftDone : left.takeAll tokens = .ok leftLater)
    (rightDone : right.takeAll tokens = .ok rightLater) (allows : allowed rightLater.assembly) :
    Paired related leftLater rightLater := by
  induction tokens generalizing left right with
  | nil =>
      cases leftDone
      cases rightDone
      exact paired
  | cons token rest inductiveHypothesis =>
      rcases takeAll_cons_eq_ok_iff.mp leftDone with ⟨leftMiddle, leftFirst, leftRest⟩
      rcases takeAll_cons_eq_ok_iff.mp rightDone with ⟨rightMiddle, rightFirst, rightRest⟩
      have middleAllows := kept.before (becomes_takeAll rightRest) allows
      exact inductiveHypothesis (paired_take kept paired leftFirst rightFirst middleAllows)
        leftRest rightRest

end Reading
end Regex
end Stencil

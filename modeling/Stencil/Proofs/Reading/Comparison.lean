import Mathlib.Data.List.Forall2
import Stencil.Proofs.Reading.Likeness

namespace Stencil
namespace Regex

/-!
What two readings have assembled, compared.  Two assemblies are similar when
their innermost frames are, down to a base on either side below which nothing
is compared: so an expression can be compared with itself inside a group, or
with another expression written around its groups.  What it means that items
are similar is left open.  It is enough that similarity goes through
everything that reading does with items, and then taking the same token on
both sides keeps it.

The right-hand side of a comparison is always an expression without groups to
capture or to refer to, so the only groups met on both sides at once are those
that neither capture nor look at captures.
-/

open Except (Agree)

def Expr.isSimple : Expr -> Bool
  | .literal _ _ => true
  | .any => true
  | .set _ _ => true
  | .anchor _ => true
  | _ => false

theorem Expr.isSimple_ofMembers (negated : Bool) (members : List Member) :
    (Expr.ofMembers negated members).isSimple = true := by
  unfold Expr.ofMembers
  split <;> rfl

/-- Whether a piece may be repeated: anchors may not, nor what is repeated
already. -/
def Piece.isRepeatable : Piece -> Bool
  | .single (.anchor _) => false
  | .single (.repeated _ _ _ _) => false
  | _ => true

/-- Whatever a group closes to may be repeated, even if what is in it may
not. -/
theorem Assembly.isRepeatable_closedPiece (frame : Frame) :
    (closedPiece frame).isRepeatable = true := by
  unfold closedPiece
  dsimp only
  split <;> try rfl
  split <;> rfl

/-- There is something to repeat if a piece has been read that may be
repeated. -/
theorem Assembly.repeatProblem?_eq_none_iff {assembly : Assembly} :
    assembly.repeatProblem? = none ↔
      ∃ piece rest, assembly.frame.pieces = piece :: rest ∧ piece.isRepeatable = true := by
  unfold repeatProblem?
  cases assembly.frame.pieces with
  | nil => simp
  | cons piece rest =>
      cases piece with
      | bundle items => simp [Piece.isRepeatable]
      | single item => cases item <;> simp [Piece.isRepeatable]

/-- What is compared on the two sides, and down to where.  The frames below
the base have nothing facing them, and are the same all the time. -/
structure Comparison where
  /-- When the items of a branch, or part of them, are similar. -/
  similar : List Expr -> List Expr -> Prop
  /-- The kinds of groups that face each other. -/
  kinds : GroupKind -> GroupKind -> Prop
  /-- The kinds of the frames at the base. -/
  leftKind : GroupKind
  rightKind : GroupKind
  /-- The frames around the base. -/
  leftBelow : List Frame
  rightBelow : List Frame
  /-- What holds of the notes on both sides. -/
  keeps : Assembly -> Assembly -> Prop

namespace Comparison

structure SimilarPieces (comparison : Comparison) (left right : Piece) : Prop where
  items : comparison.similar left.items right.items
  repeatable : left.isRepeatable = right.isRepeatable

/-- Where the pieces of the innermost frames are similar, both sides may
repeat the last one or neither. -/
theorem repeatProblem?_eq_none_congr {comparison : Comparison} {left right : Assembly}
    (pieces : List.Forall₂ comparison.SimilarPieces left.frame.pieces right.frame.pieces) :
    left.repeatProblem? = none ↔ right.repeatProblem? = none := by
  rw [Assembly.repeatProblem?_eq_none_iff, Assembly.repeatProblem?_eq_none_iff]
  generalize left.frame.pieces = leftPieces at pieces ⊢
  generalize right.frame.pieces = rightPieces at pieces ⊢
  cases pieces with
  | nil => simp
  | cons last others => simp [last.repeatable]

structure SimilarFrames (comparison : Comparison) (left right : Frame) : Prop where
  verbose : left.verbose = right.verbose
  pieces : List.Forall₂ comparison.SimilarPieces left.pieces right.pieces
  branches : List.Forall₂ comparison.similar left.branches right.branches

/-- Frames that are similar down to the base, which is verbose or not as
said. -/
inductive Stacked (comparison : Comparison) (verbose : Bool) : List Frame -> List Frame -> Prop where
  | base {left right : Frame} {leftOuter rightOuter : List Frame}
      (frames : comparison.SimilarFrames left right)
      (leftKind : left.kind = comparison.leftKind) (rightKind : right.kind = comparison.rightKind)
      (same : left.verbose = verbose) (leftBelow : leftOuter = comparison.leftBelow)
      (rightBelow : rightOuter = comparison.rightBelow) :
      Stacked comparison verbose (left :: leftOuter) (right :: rightOuter)
  | push {left right : Frame} {leftOuter rightOuter : List Frame}
      (frames : comparison.SimilarFrames left right)
      (kinds : comparison.kinds left.kind right.kind)
      (outer : Stacked comparison verbose leftOuter rightOuter) :
      Stacked comparison verbose (left :: leftOuter) (right :: rightOuter)

/-- The assemblies are similar where they are compared.  `verbose` is what the
base is; where no frame is around the base, the flags of the whole expression
agree with it, as they take effect there. -/
structure SimilarAt (comparison : Comparison) (verbose : Bool) (left right : Assembly) : Prop where
  stacked : comparison.Stacked verbose (left.frame :: left.outer) (right.frame :: right.outer)
  leftFlags : comparison.leftBelow = [] -> left.flags.verbose = verbose
  rightFlags : comparison.rightBelow = [] -> right.flags.verbose = verbose
  keeps : comparison.keeps left right

def Similar (comparison : Comparison) (left right : Assembly) : Prop :=
  ∃ verbose, comparison.SimilarAt verbose left right

/-- Similarity goes through all that reading does.  What is asked for is one
clause for each way of making items and groups. -/
structure IsCongruent (comparison : Comparison) : Prop where
  nil : comparison.similar [] []
  append {first second third fourth : List Expr} : comparison.similar first second ->
    comparison.similar third fourth -> comparison.similar (first ++ third) (second ++ fourth)
  simple {item : Expr} : item.isSimple = true -> comparison.similar [item] [item]
  repeated {first second : List Expr} (mode : RepeatMode) (low : Nat) (high : Option Nat) :
    comparison.similar first second ->
    comparison.similar [.repeated mode low high (Expr.sequence first)]
      [.repeated mode low high (Expr.sequence second)]
  closed {left right : Frame} : comparison.kinds left.kind right.kind ->
    List.Forall₂ comparison.similar left.allBranches right.allBranches ->
    comparison.similar (Assembly.closedPiece left).items (Assembly.closedPiece right).items
  plain : comparison.kinds .plain .plain
  flagged (change : FlagChange) : comparison.kinds (.flagged change) (.flagged change)
  atomic : comparison.kinds .atomic .atomic
  look (behind negated : Bool) (limit other : Option Nat) :
    comparison.kinds (.look behind negated limit) (.look behind negated other)
  oneBase : comparison.leftBelow = [] ∨ comparison.rightBelow = []
  keepsNotes {left right leftLater rightLater : Assembly} : comparison.keeps left right ->
    left.SameNotes leftLater -> right.SameNotes rightLater -> comparison.keeps leftLater rightLater
  keepsClose {left right : Assembly} : comparison.keeps left right ->
    comparison.kinds left.frame.kind right.frame.kind -> comparison.keeps left.close right.close
  keepsFlags {left right : Assembly} (added : Flags) : comparison.keeps left right ->
    comparison.leftBelow = [] -> comparison.rightBelow = [] ->
    comparison.keeps (left.setFlags added) (right.setFlags added)

variable {comparison : Comparison} {left right : Assembly}

theorem Similar.verbose (similar : comparison.Similar left right) :
    left.frame.verbose = right.frame.verbose := by
  obtain ⟨_, ⟨stacked, _, _, _⟩⟩ := similar
  cases stacked with
  | base frames => exact frames.verbose
  | push frames => exact frames.verbose

structure Stays (earlier later : Assembly) : Prop where
  notes : earlier.SameNotes later
  outer : later.outer = earlier.outer
  kind : later.frame.kind = earlier.frame.kind
  verbose : later.frame.verbose = earlier.frame.verbose

/-- The later assembly is in a group just opened, with nothing in it. -/
structure Enters (earlier later : Assembly) (kind : GroupKind) (verbose : Bool) : Prop where
  notes : earlier.SameNotes later
  outer : later.outer = earlier.frame :: earlier.outer
  frame : ∃ start, later.frame = .begin kind start verbose

/-- The innermost frames may change together.  What is around them is as
similar as before, since neither side touches it. -/
theorem Similar.stay (congruent : comparison.IsCongruent) (similar : comparison.Similar left right)
    {leftLater rightLater : Assembly} (leftStays : Stays left leftLater)
    (rightStays : Stays right rightLater)
    (frames : comparison.SimilarFrames left.frame right.frame ->
      comparison.SimilarFrames leftLater.frame rightLater.frame) :
    comparison.Similar leftLater rightLater := by
  obtain ⟨verbose, similar⟩ := similar
  refine ⟨verbose, ?_, fun noneBelow => leftStays.notes.flags ▸ similar.leftFlags noneBelow,
    fun noneBelow => rightStays.notes.flags ▸ similar.rightFlags noneBelow,
    congruent.keepsNotes similar.keeps leftStays.notes rightStays.notes⟩
  rw [leftStays.outer, rightStays.outer]
  cases similar.stacked with
  | base similarFrames isLeft isRight same leftBelow rightBelow =>
      exact .base (frames similarFrames) (leftStays.kind.trans isLeft)
        (rightStays.kind.trans isRight) (leftStays.verbose.trans same) leftBelow rightBelow
  | push similarFrames kinds outer =>
      refine .push (frames similarFrames) ?_ outer
      rw [leftStays.kind, rightStays.kind]
      exact kinds

theorem Similar.enter (congruent : comparison.IsCongruent)
    (similar : comparison.Similar left right) {leftLater rightLater : Assembly}
    {leftKind rightKind : GroupKind} {verbose : Bool} (kinds : comparison.kinds leftKind rightKind)
    (leftEnters : Enters left leftLater leftKind verbose)
    (rightEnters : Enters right rightLater rightKind verbose) :
    comparison.Similar leftLater rightLater := by
  obtain ⟨base, similar⟩ := similar
  refine ⟨base, ?_, fun noneBelow => leftEnters.notes.flags ▸ similar.leftFlags noneBelow,
    fun noneBelow => rightEnters.notes.flags ▸ similar.rightFlags noneBelow,
    congruent.keepsNotes similar.keeps leftEnters.notes rightEnters.notes⟩
  obtain ⟨leftStart, leftFrame⟩ := leftEnters.frame
  obtain ⟨rightStart, rightFrame⟩ := rightEnters.frame
  rw [leftFrame, rightFrame, leftEnters.outer, rightEnters.outer]
  exact .push ⟨rfl, .nil, .nil⟩ kinds similar.stacked

/-- An item that is similar to itself may be added on both sides.  Most items
are, as they are made of a single token. -/
theorem Similar.pushItem (congruent : comparison.IsCongruent)
    (similar : comparison.Similar left right) {item : Expr} (same : comparison.similar [item] [item]) :
    comparison.Similar (left.push item) (right.push item) := by
  refine similar.stay congruent ⟨left.sameNotes_push _, rfl, rfl, rfl⟩
    ⟨right.sameNotes_push _, rfl, rfl, rfl⟩ ?_
  intro frames
  exact ⟨frames.verbose, .cons ⟨same, rfl⟩ frames.pieces, frames.branches⟩

theorem Similar.push (congruent : comparison.IsCongruent)
    (similar : comparison.Similar left right) {item : Expr} (simple : item.isSimple = true) :
    comparison.Similar (left.push item) (right.push item) :=
  similar.pushItem congruent (congruent.simple simple)

theorem stays_repeatLast (assembly : Assembly) (mode : RepeatMode) (low : Nat)
    (high : Option Nat) : Stays assembly (assembly.repeatLast mode low high) := by
  have kept : (assembly.repeatLast mode low high).outer = assembly.outer ∧
      (assembly.repeatLast mode low high).frame.kind = assembly.frame.kind ∧
      (assembly.repeatLast mode low high).frame.verbose = assembly.frame.verbose := by
    unfold Assembly.repeatLast
    split <;> exact ⟨rfl, rfl, rfl⟩
  exact ⟨assembly.sameNotes_repeatLast _ _ _, kept.1, kept.2.1, kept.2.2⟩

theorem Similar.repeatLast (congruent : comparison.IsCongruent)
    (similar : comparison.Similar left right) (mode : RepeatMode) (low : Nat)
    (high : Option Nat) :
    comparison.Similar (left.repeatLast mode low high) (right.repeatLast mode low high) := by
  refine similar.stay congruent (stays_repeatLast _ _ _ _) (stays_repeatLast _ _ _ _) ?_
  intro frames
  have pieces := frames.pieces
  unfold Assembly.repeatLast
  generalize leftPieces : left.frame.pieces = first at pieces
  generalize rightPieces : right.frame.pieces = second at pieces
  cases pieces with
  | nil => exact frames
  | cons last others =>
      exact ⟨frames.verbose, .cons ⟨congruent.repeated _ _ _ last.items, rfl⟩ others, frames.branches⟩

theorem enters_openGroup (assembly : Assembly) (kind : GroupKind) (start : Nat) (verbose : Bool) :
    Enters assembly (assembly.openGroup kind start verbose) kind verbose :=
  ⟨assembly.sameNotes_openGroup _ _ _, rfl, start, rfl⟩

theorem enters_openLook (assembly : Assembly) (behind negated : Bool) (start : Nat) :
    Enters assembly (assembly.openLook behind negated start)
      (.look behind negated assembly.lookBehindLimit) assembly.frame.verbose := by
  have entered : (assembly.openLook behind negated start).outer =
        assembly.frame :: assembly.outer ∧
      (assembly.openLook behind negated start).frame =
        .begin (.look behind negated assembly.lookBehindLimit) start assembly.frame.verbose := by
    unfold Assembly.openLook
    dsimp only
    split <;> exact ⟨rfl, rfl⟩
  exact ⟨assembly.sameNotes_openLook _ _ _, entered.1, start, entered.2⟩

theorem Similar.openGroup (congruent : comparison.IsCongruent)
    (similar : comparison.Similar left right) {kind otherKind : GroupKind}
    (kinds : comparison.kinds kind otherKind) (start other : Nat) (verbose : Bool) :
    comparison.Similar (left.openGroup kind start verbose) (right.openGroup otherKind other verbose) :=
  similar.enter congruent kinds (enters_openGroup _ _ _ _) (enters_openGroup _ _ _ _)

theorem Similar.openLook (congruent : comparison.IsCongruent)
    (similar : comparison.Similar left right) (behind negated : Bool) (start other : Nat) :
    comparison.Similar (left.openLook behind negated start) (right.openLook behind negated other) := by
  have entered := enters_openLook left behind negated start
  rw [similar.verbose] at entered
  exact similar.enter congruent (congruent.look _ _ _ _) entered (enters_openLook _ _ _ _)

/-- The branch being read is made of similar pieces. -/
theorem SimilarFrames.branch (congruent : comparison.IsCongruent) {first second : Frame}
    (frames : comparison.SimilarFrames first second) :
    comparison.similar first.branch second.branch := by
  have gather : forall (one other : List Piece), List.Forall₂ comparison.SimilarPieces one other ->
      comparison.similar (one.reverse.flatMap Piece.items) (other.reverse.flatMap Piece.items) := by
    intro one other pieces
    induction pieces with
    | nil => exact congruent.nil
    | cons head _ inductiveHypothesis =>
        simp only [List.reverse_cons, List.flatMap_append, List.flatMap_singleton]
        exact congruent.append inductiveHypothesis head.items
  exact gather _ _ frames.pieces

theorem SimilarFrames.allBranches (congruent : comparison.IsCongruent) {first second : Frame}
    (frames : comparison.SimilarFrames first second) :
    List.Forall₂ comparison.similar first.allBranches second.allBranches :=
  List.rel_reverse (.cons (frames.branch congruent) frames.branches)

/-- A new branch is verbose as the one before it, where the flags of the whole
expression are those of its frame. -/
theorem stays_nextBranch {assembly : Assembly}
    (whole : assembly.outer = [] -> assembly.flags.verbose = assembly.frame.verbose) :
    Stays assembly assembly.nextBranch := by
  refine ⟨assembly.sameNotes_nextBranch, rfl, rfl, ?_⟩
  simp only [Assembly.nextBranch]
  split
  · rename_i noneOuter
    exact whole (List.isEmpty_iff.mp noneOuter)
  · rfl

theorem SimilarAt.leftWhole {verbose : Bool} (similar : comparison.SimilarAt verbose left right)
    (noneOuter : left.outer = []) : left.flags.verbose = left.frame.verbose := by
  have stacked := similar.stacked
  rw [noneOuter] at stacked
  cases stacked with
  | base _ _ _ same leftBelow _ => exact (similar.leftFlags leftBelow.symm).trans same.symm
  | push _ _ outer => cases outer

theorem SimilarAt.rightWhole {verbose : Bool} (similar : comparison.SimilarAt verbose left right)
    (noneOuter : right.outer = []) : right.flags.verbose = right.frame.verbose := by
  have stacked := similar.stacked
  rw [noneOuter] at stacked
  generalize left.outer = leftStack at stacked
  cases stacked with
  | base frames _ _ same _ rightBelow =>
      exact (similar.rightFlags rightBelow.symm).trans (same.symm.trans frames.verbose)
  | push _ _ outer => cases outer

/-- Where nothing is open on the left, the right-hand side is at its base, and
nothing is around that but what was there from the beginning. -/
theorem Similar.atBase (similar : comparison.Similar left right) (noneOpen : left.outer = []) :
    comparison.SimilarFrames left.frame right.frame ∧ right.frame.kind = comparison.rightKind ∧
      right.outer = comparison.rightBelow ∧ right.frame.verbose = left.flags.verbose := by
  have same := similar.verbose
  rcases similar with ⟨verbose, similarAt⟩
  have whole := similarAt.leftWhole noneOpen
  have stacked := similarAt.stacked
  rw [noneOpen] at stacked
  generalize right.outer = rightOuter at stacked
  cases stacked with
  | base frames leftKind kind _ _ below => exact ⟨frames, kind, below, same.symm.trans whole.symm⟩
  | push _ _ outer => cases outer

theorem Similar.nextBranch (congruent : comparison.IsCongruent)
    (similar : comparison.Similar left right) :
    comparison.Similar left.nextBranch right.nextBranch := by
  obtain ⟨verbose, located⟩ := similar
  have leftStays := stays_nextBranch located.leftWhole
  have rightStays := stays_nextBranch located.rightWhole
  refine Similar.stay congruent ⟨verbose, located⟩ leftStays rightStays ?_
  intro frames
  refine ⟨?_, .nil, .cons (frames.branch congruent) frames.branches⟩
  rw [leftStays.verbose, rightStays.verbose]
  exact frames.verbose

/-- Groups that face each other are closed together.  The base is never
closed, since on one side it is the whole expression. -/
theorem Similar.close (congruent : comparison.IsCongruent)
    (similar : comparison.Similar left right) (leftOuter : left.outer ≠ [])
    (rightOuter : right.outer ≠ []) : comparison.Similar left.close right.close := by
  obtain ⟨verbose, similar⟩ := similar
  have stacked := similar.stacked
  have keeps := similar.keeps
  cases leftAround : left.outer with
  | nil => exact absurd leftAround leftOuter
  | cons leftEnclosing leftRest =>
  cases rightAround : right.outer with
  | nil => exact absurd rightAround rightOuter
  | cons rightEnclosing rightRest =>
  rw [leftAround, rightAround] at stacked
  obtain ⟨leftRest, leftFrame⟩ := Assembly.close_of_outer_eq_cons leftAround
  obtain ⟨rightRest, rightFrame⟩ := Assembly.close_of_outer_eq_cons rightAround
  cases stacked with
  | base _ _ _ _ leftBelow rightBelow =>
      rcases congruent.oneBase with noneLeft | noneRight
      · rw [noneLeft] at leftBelow
        cases leftBelow
      · rw [noneRight] at rightBelow
        cases rightBelow
  | push frames kinds outer =>
      have piece : comparison.SimilarPieces (Assembly.closedPiece left.frame)
          (Assembly.closedPiece right.frame) := by
        refine ⟨congruent.closed kinds (frames.allBranches congruent), ?_⟩
        rw [Assembly.isRepeatable_closedPiece, Assembly.isRepeatable_closedPiece]
      refine ⟨verbose, ?_, fun noneBelow => ?_, fun noneBelow => ?_,
        congruent.keepsClose keeps kinds⟩
      · rw [leftRest, rightRest, leftFrame, rightFrame]
        cases outer with
        | base enclosing isLeft isRight same leftBelow rightBelow =>
            exact .base ⟨enclosing.verbose, .cons piece enclosing.pieces, enclosing.branches⟩
              isLeft isRight same leftBelow rightBelow
        | push enclosing enclosingKinds further =>
            exact .push ⟨enclosing.verbose, .cons piece enclosing.pieces, enclosing.branches⟩
              enclosingKinds further
      · rw [Assembly.flags_close]
        exact similar.leftFlags noneBelow
      · rw [Assembly.flags_close]
        exact similar.rightFlags noneBelow

/-- Flags for the whole expression are set on both sides, if on both there is
nothing around the base. -/
theorem Similar.setFlags (congruent : comparison.IsCongruent)
    (similar : comparison.Similar left right) (added : Flags) (leftStart : left.isAtStart = true)
    (rightStart : right.isAtStart = true) :
    comparison.Similar (left.setFlags added) (right.setFlags added) := by
  obtain ⟨verbose, similar⟩ := similar
  have stacked := similar.stacked
  simp only [Assembly.isAtStart, Bool.and_eq_true, List.isEmpty_iff] at leftStart rightStart
  rw [leftStart.1.1, rightStart.1.1] at stacked
  cases stacked with
  | push _ _ outer => cases outer
  | base frames isLeft isRight same leftBelow rightBelow =>
      have leftVerbose := similar.leftFlags leftBelow.symm
      have rightVerbose := similar.rightFlags rightBelow.symm
      have sameVerbose : (left.flags.union added).verbose = (right.flags.union added).verbose := by
        simp only [Flags.union, leftVerbose, rightVerbose]
      refine ⟨(left.flags.union added).verbose, ?_, fun _ => rfl, fun _ => sameVerbose.symm,
        congruent.keepsFlags added similar.keeps leftBelow.symm rightBelow.symm⟩
      refine .base ⟨sameVerbose, frames.pieces, frames.branches⟩ isLeft isRight rfl ?_ ?_
      · exact leftStart.1.1.trans leftBelow
      · exact rightStart.1.1.trans rightBelow

end Comparison
end Regex
end Stencil

import Stencil.Proofs.Reading.Growth

namespace Stencil
namespace Regex

/-!
Readings side by side.  Two readings that are in the middle of the same thing
and take the same token stay in the middle of the same thing, wherever in
their texts they are and whatever they have read before.  Here this is said of
the parts of an expression that know nothing of groups: escapes, sets, bounds,
and what follows an opening parenthesis.  Positions only enter into faults, so
the parts concur: both are faulty or neither is.
-/

open Except (Concur)

/-- Things that an opening parenthesis turns out to begin, in different
places. -/
inductive Opened.Alike : Opened -> Opened -> Prop where
  | unnamed : Alike (.capture none) (.capture none)
  | named (characters : List Char) (position other : Nat) :
      Alike (.capture (some ⟨characters, position⟩)) (.capture (some ⟨characters, other⟩))
  | plain : Alike .plain .plain
  | flagged (change : FlagChange) : Alike (.flagged change) (.flagged change)
  | atomic : Alike .atomic .atomic
  | look (behind negated : Bool) : Alike (.look behind negated) (.look behind negated)
  | conditional (characters : List Char) (position other : Nat) :
      Alike (.conditional ⟨characters, position⟩) (.conditional ⟨characters, other⟩)
  | comment : Alike .comment .comment
  | flags (added : Flags) : Alike (.flags added) (.flags added)
  | reference (characters : List Char) (position other : Nat) :
      Alike (.reference ⟨characters, position⟩) (.reference ⟨characters, other⟩)

/-- What a token makes of an opening, in different places: the same opening
goes on, or the same thing is begun. -/
inductive Opening.Alike : Opening ⊕ Opened -> Opening ⊕ Opened -> Prop where
  | unfinished (opening : Opening) : Alike (.inl opening) (.inl opening)
  | opened {first second : Opened} (alike : first.Alike second) : Alike (.inr first) (.inr second)

/-- Escapes in the same surroundings, of sets that begin in different
places. -/
inductive EscapePlace.Alike : EscapePlace -> EscapePlace -> Prop where
  | outside : Alike .outside .outside
  | inSet (start other : Nat) (negated : Bool) (members : List Member) (place : SetReading.Place) :
      Alike (.inSet ⟨start, negated, members⟩ place) (.inSet ⟨other, negated, members⟩ place)

/-- Modes that differ only in the places where something began.  These are
kept for the sake of faults alone. -/
inductive Mode.Alike : Mode -> Mode -> Prop where
  | item : Alike .item .item
  | lineComment : Alike .lineComment .lineComment
  | comment (start other : Nat) : Alike (.comment start) (.comment other)
  | escape {place otherPlace : EscapePlace} (alike : place.Alike otherPlace) (start other : Nat)
      (token : Token) (escape : Escape.Unfinished) :
      Alike (.escape place start token escape) (.escape otherPlace other token escape)
  | set (start other : Nat) (negated : Bool) (members : List Member) (place : SetReading.Place) :
      Alike (.set ⟨start, negated, members⟩ place) (.set ⟨other, negated, members⟩ place)
  | bounds (start other : Nat) (reading : BoundsReading) :
      Alike (.bounds start reading) (.bounds other reading)
  | quantified (counts : Counts) : Alike (.quantified counts) (.quantified counts)
  | opening (start other : Nat) (opening : Opening) :
      Alike (.opening start opening) (.opening other opening)

theorem Mode.Alike.exists_opening {left right : Mode} {start : Nat} {opening : Opening}
    (alike : left.Alike right) (begins : left = .opening start opening) :
    ∃ other, right = .opening other opening := by
  subst begins
  cases alike with
  | opening _ other _ => exact ⟨other, rfl⟩

namespace Escape

/-- A code point is taken or refused by its value, wherever it is written. -/
theorem Unfinished.concur_codePoint (text : String) (value start other : Nat) :
    Concur Eq (codePoint start text value) (codePoint other text value) := by
  unfold codePoint
  split
  · exact .ok rfl
  · split <;> exact .error

theorem Unfinished.concur_octalCode (text : String) (digits : List Char) (start other : Nat) :
    Concur Eq (octalCode start text digits) (octalCode other text digits) := by
  unfold octalCode
  dsimp only
  split
  · exact .ok rfl
  · exact .error

theorem Unfinished.concur_finish (escape : Unfinished) (start stop other otherStop : Nat) :
    Concur Eq (escape.finish start stop) (escape.finish other otherStop) := by
  unfold finish
  split
  · split
    · exact .error
    · exact concur_codePoint _ _ _ _
  · exact concur_octalCode _ _ _ _
  · split
    · exact .ok rfl
    · exact concur_octalCode _ _ _ _
  · exact .error
  · exact .error
  · exact .error
  · exact .error
  · split
    · exact .ok rfl
    · exact .error

end Escape

theorem SetReading.concur_range (first second : Member) (firstToken secondToken : Token)
    (position other : Nat) :
    Concur Eq (range first second firstToken secondToken position)
      (range first second firstToken secondToken other) := by
  unfold range
  dsimp only
  split
  · split
    · exact .ok rfl
    · exact .error
  · exact .error

theorem SetReading.concur_takeItem (start other : Nat) (negated : Bool) (members : List Member)
    (place : Place) (item : Member) (token : Token) (position otherPosition : Nat) :
    Concur (fun first second : SetReading × Place => ∃ later next,
      first = (⟨start, negated, later⟩, next) ∧ second = (⟨other, negated, later⟩, next))
      (takeItem ⟨start, negated, members⟩ place item token position)
      (takeItem ⟨other, negated, members⟩ place item token otherPosition) := by
  unfold takeItem
  split
  · refine .bind (concur_range _ _ _ _ _ _) ?_
    rintro member _ rfl
    exact .ok ⟨_, _, rfl, rfl⟩
  · exact .ok ⟨_, _, rfl, rfl⟩

theorem BoundsReading.concur_counts (reading : BoundsReading) (start other : Nat) :
    Concur Eq (reading.counts start) (reading.counts other) := by
  unfold counts
  refine .bind (.same _) ?_
  rintro low _ rfl
  refine .bind (.same _) ?_
  rintro high _ rfl
  dsimp only
  split
  · exact .ok rfl
  · split
    · exact .error
    · exact .ok rfl

namespace Opening

theorem concur_turnOn (added : Flags) (letter : Char) (stop other : Nat) :
    Concur Eq (turnOn added letter stop) (turnOn added letter other) := by
  unfold turnOn
  split
  · exact .error
  · dsimp only
    split
    · exact .error
    · exact .ok rfl

theorem concur_turnOff (removed : Flags) (letter : Char) (stop other : Nat) :
    Concur Eq (turnOff removed letter stop) (turnOff removed letter other) := by
  unfold turnOff
  split
  · exact .error
  · split
    · exact .error
    · exact .ok rfl

theorem concur_endName (characters : List Char) (stop other : Nat) :
    Concur (fun first second : Name => first.characters = characters ∧
      second.characters = characters) (endName characters stop) (endName characters other) := by
  unfold endName
  split
  · exact .error
  · exact .ok ⟨rfl, rfl⟩

theorem concur_endIdentifier (characters : List Char) (stop other : Nat) :
    Concur (fun first second : Name => first.characters = characters ∧
      second.characters = characters) (endIdentifier characters stop)
      (endIdentifier characters other) := by
  unfold endIdentifier
  refine .bind (concur_endName characters stop other) ?_
  intro first second same
  split
  · exact .ok same
  · exact .error

theorem concur_takeExtension (token : Token) (stop other : Nat) :
    Concur Opening.Alike (takeExtension token stop) (takeExtension token other) := by
  unfold takeExtension
  refine .ite (.ok (.unfinished _)) ?_
  refine .ite (.ok (.opened .plain)) ?_
  refine .ite (.ok (.opened .comment)) ?_
  refine .ite (.ok (.opened (.look _ _))) ?_
  refine .ite (.ok (.opened (.look _ _))) ?_
  refine .ite (.ok (.unfinished _)) ?_
  refine .ite (.ok (.unfinished _)) ?_
  refine .ite (.ok (.opened .atomic)) ?_
  refine .ite (.ok (.unfinished _)) ?_
  refine .ite (.map (concur_turnOn {} _ stop other) ?_) .error
  rintro added _ rfl
  exact .unfinished _

theorem concur_takeFlagOn (added : Flags) (token : Token) (stop other : Nat) :
    Concur Opening.Alike (takeFlagOn added token stop) (takeFlagOn added token other) := by
  unfold takeFlagOn
  refine .ite (.ok (.opened (.flags _))) ?_
  refine .ite (.ite .error (.ite (.ok (.opened (.flagged _))) (.ok (.unfinished _)))) ?_
  refine .ite (.map (concur_turnOn added _ stop other) ?_) .error
  rintro more _ rfl
  exact .unfinished _

theorem concur_takeFlagOff (added removed : Flags) (begun : Bool) (token : Token)
    (stop other : Nat) :
    Concur Opening.Alike (takeFlagOff added removed begun token stop)
      (takeFlagOff added removed begun token other) := by
  unfold takeFlagOff
  refine .ite (.ite .error (.ite .error (.ok (.opened (.flagged _))))) ?_
  refine .ite (.map (concur_turnOff removed _ stop other) ?_) .error
  rintro more _ rfl
  exact .unfinished _

theorem concur_take (opening : Opening) (token : Token) (stop other : Nat) :
    Concur Opening.Alike (opening.take token stop) (opening.take token other) := by
  have named : forall (first second : Name) (characters : List Char),
      first.characters = characters ∧ second.characters = characters ->
      first = ⟨characters, first.position⟩ ∧ second = ⟨characters, second.position⟩ := by
    rintro ⟨_, _⟩ ⟨_, _⟩ characters ⟨rfl, rfl⟩
    exact ⟨rfl, rfl⟩
  cases opening with
  | parenthesis => exact .ok (.unfinished _)
  | question => exact concur_takeExtension token stop other
  | extension =>
      exact .ite (.ok (.unfinished _)) (.ite (.ok (.unfinished _)) .error)
  | groupName characters =>
      refine .ite (.map (concur_endIdentifier characters stop other) ?_) (.ok (.unfinished _))
      intro first second same
      obtain ⟨left, right⟩ := named first second characters same
      rw [left, right]
      exact .opened (.named characters _ _)
  | referenceName characters =>
      refine .ite (.map (concur_endIdentifier characters stop other) ?_) (.ok (.unfinished _))
      intro first second same
      obtain ⟨left, right⟩ := named first second characters same
      rw [left, right]
      exact .opened (.reference characters _ _)
  | conditionName characters =>
      refine .ite (.map (concur_endName characters stop other) ?_) (.ok (.unfinished _))
      intro first second same
      obtain ⟨left, right⟩ := named first second characters same
      rw [left, right]
      exact .opened (.conditional characters _ _)
  | angle =>
      exact .ite (.ok (.opened (.look _ _))) (.ite (.ok (.opened (.look _ _))) .error)
  | flagsOn added => exact concur_takeFlagOn added token stop other
  | flagsOff added removed begun => exact concur_takeFlagOff added removed begun token stop other

end Opening

end Regex
end Stencil

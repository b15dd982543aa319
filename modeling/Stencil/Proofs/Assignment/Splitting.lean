import Mathlib.Data.List.Basic
import Stencil.Assignment
import Stencil.Proofs.Outcome
import Stencil.Proofs.Running.Segment
import Stencil.Proofs.Running.Ways

namespace Stencil
namespace Assignment

/-!
Where the regular expression of an assignment takes a text apart.  The name is
run over greedily, so its ends are tried from the longest name down; an
escaped equals sign is taken as a whole first, and only later the backslash
alone (`ends`).  The first end that an equals sign stands at is where the name
stops, as the value takes whatever follows.

No name goes beyond the first equals sign that no backslash precedes, and the
longest name ends there.  So that sign splits the text if there is one.  If
there is none, though, the names tried later end before escaped signs, and the
last of these splits the text.

The main statement is `Assignment.parse_splits`.
-/

open Regex (Cursor Ways Expr segment)

variable {text rest front back : List Char} {character : Char} {cursor reached : Cursor} {count : Nat}

/-- How long the name at the beginning of the text can be, in the order in
which that is tried. -/
def ends : List Char -> List Nat
  | '\\' :: '=' :: rest => (ends rest ++ [0]).map (· + 2) ++ [1]
  | character :: rest => if character = '=' then [] else (ends rest ++ [0]).map (· + 1)
  | [] => []

/-- Whether an equals sign stands behind so many characters of the text. -/
def signAt (text : List Char) (length : Nat) : Bool :=
  text[length]? == some '='

/-! ## Runs over a name -/

theorem drop_moveTo (front : List Char) (remains : text.drop cursor.position = front ++ rest) :
    text.drop (cursor.moveTo (cursor.position + front.length)).position = rest := by
  rw [Cursor.moveTo, ← List.drop_drop, remains, List.drop_left]

theorem consume_of_drop_cons (remains : text.drop cursor.position = character :: rest)
    (admits : Nat -> Bool) :
    Ways.consume text.toArray admits cursor =
      if admits character.toNat then [cursor.moveTo (cursor.position + 1)] else [] := by
  have present : text.toArray[cursor.position]? = some character := by
    rw [List.getElem?_toArray, ← List.head?_drop, remains, List.head?_cons]
  rw [Ways.consume, present]

theorem consume_of_drop_nil (remains : text.drop cursor.position = []) (admits : Nat -> Bool) :
    Ways.consume text.toArray admits cursor = [] := by
  have absent : text.toArray[cursor.position]? = none := by
    rw [List.getElem?_toArray, ← List.head?_drop, remains, List.head?_nil]
  rw [Ways.consume, absent]

/-- A sign is run over where it stands, and any other character where it does
not. -/
theorem ways_sign (remains : text.drop cursor.position = character :: rest) (sign : Char) :
    Expr.ways text.toArray (.literal false sign.toNat) form.flags cursor =
      if character = sign then [cursor.moveTo (cursor.position + 1)] else [] := by
  refine (consume_of_drop_cons remains _).trans ?_
  by_cases same : character = sign <;> simp [Regex.codeAdmits, form, Char.toNat_inj, same]

theorem ways_otherSign (remains : text.drop cursor.position = character :: rest) (sign : Char) :
    Expr.ways text.toArray (.literal true sign.toNat) form.flags cursor =
      if character = sign then [] else [cursor.moveTo (cursor.position + 1)] := by
  refine (consume_of_drop_cons remains _).trans ?_
  by_cases same : character = sign <;> simp [Regex.codeAdmits, form, Char.toNat_inj, same]

/-- The places behind one item of a name: a pair of a backslash and an equals
sign, or a character that is no equals sign. -/
def nameWays (text : List Char) : Ways :=
  nameItem.ways text.toArray form.flags

theorem nameWays_eq (text : List Char) (cursor : Cursor) :
    nameWays text cursor =
      (Expr.ways text.toArray (.literal false '\\'.toNat) form.flags cursor).flatMap
        (Expr.ways text.toArray (.literal false '='.toNat) form.flags) ++
      Expr.ways text.toArray (.literal true '='.toNat) form.flags cursor :=
  rfl

/-- An escaped sign is taken as a whole or, after that, the backslash
alone. -/
theorem nameWays_pair (remains : text.drop cursor.position = '\\' :: '=' :: rest) :
    nameWays text cursor =
      [cursor.moveTo (cursor.position + 2), cursor.moveTo (cursor.position + 1)] := by
  have behind : text.drop (cursor.moveTo (cursor.position + 1)).position = '=' :: rest :=
    drop_moveTo ['\\'] remains
  rw [nameWays_eq, ways_sign remains, ways_otherSign remains, if_pos rfl, List.flatMap_singleton,
    ways_sign behind]
  rfl

/-- Nothing else is taken but single characters that are no equals signs.  A
backslash is one of them unless it stands before a sign. -/
theorem nameWays_single (remains : text.drop cursor.position = character :: rest)
    (notPair : character = '\\' -> forall later, rest ≠ '=' :: later) :
    nameWays text cursor =
      if character = '=' then [] else [cursor.moveTo (cursor.position + 1)] := by
  rw [nameWays_eq, ways_sign remains, ways_otherSign remains]
  by_cases backslash : character = '\\'
  · have behind : text.drop (cursor.moveTo (cursor.position + 1)).position = rest :=
      drop_moveTo [character] remains
    rw [if_pos backslash, List.flatMap_singleton]
    cases rest with
    | nil => exact congrArg (· ++ _) (consume_of_drop_nil behind _)
    | cons next later =>
        have noSign : next ≠ '=' := fun same => notPair backslash later (same ▸ rfl)
        rw [ways_sign behind, if_neg noSign, List.nil_append]
  · rw [if_neg backslash, List.flatMap_nil, List.nil_append]

theorem nameWays_nil (remains : text.drop cursor.position = []) : nameWays text cursor = [] := by
  rw [nameWays_eq]
  simp only [Expr.ways, consume_of_drop_nil remains, List.flatMap_nil, List.append_nil]

theorem position_of_mem_consume {admits : Nat -> Bool}
    (member : reached ∈ Ways.consume text.toArray admits cursor) :
    reached.position = cursor.position + 1 := by
  unfold Ways.consume at member
  split at member
  · split at member
    · rw [List.mem_singleton.mp member]
      rfl
    · cases member
  · cases member

/-- An item of a name is never empty, so no round of the repetition is
idle. -/
theorem position_ne_of_mem_nameWays (member : reached ∈ nameWays text cursor) :
    reached.position ≠ cursor.position := by
  rw [nameWays_eq] at member
  rcases List.mem_append.mp member with pair | single
  · rcases List.mem_flatMap.mp pair with ⟨middle, backslash, sign⟩
    rw [position_of_mem_consume sign, position_of_mem_consume backslash]
    omega
  · rw [position_of_mem_consume single]
    omega

def advanced (cursor : Cursor) (length : Nat) : Cursor :=
  cursor.moveTo (cursor.position + length)

theorem advanced_advanced (cursor : Cursor) (first second : Nat) :
    advanced (advanced cursor first) second = advanced cursor (second + first) := by
  simp only [advanced, Cursor.moveTo, Nat.add_assoc, Nat.add_comm first]

/-- The rounds of a name that begins here end where `ends` says, if there may
be enough of them. -/
def RoundsEnd (text rest : List Char) (cursor : Cursor) : Prop :=
  forall count, rest.length ≤ count + 1 ->
    (nameWays text cursor).flatMap ((nameWays text).greedily count) =
      (ends rest).map (advanced cursor)

/-- If the rounds end as `ends` says, then the name also ends where no round
is gone, and that is tried last of all. -/
theorem RoundsEnd.greedily (roundsEnd : RoundsEnd text rest cursor) (enough : rest.length ≤ count) :
    (nameWays text).greedily count cursor = (ends rest ++ [0]).map (advanced cursor) := by
  cases count with
  | zero =>
      cases List.eq_nil_of_length_eq_zero (Nat.le_zero.mp enough)
      rfl
  | succ count =>
      have moves : (nameWays text cursor).flatMap
            (Ways.unlessIdle cursor ((nameWays text).greedily count)) =
          (nameWays text cursor).flatMap ((nameWays text).greedily count) :=
        List.flatMap_congr fun reached member => if_neg (position_ne_of_mem_nameWays member)
      have rounds := moves.trans (roundsEnd count enough)
      rw [List.map_append, ← rounds]
      rfl

/-- A character by itself leads to the ends of what comes after it, each one
character further on. -/
theorem RoundsEnd.single (later : RoundsEnd text rest (advanced cursor 1))
    (way : nameWays text cursor = [advanced cursor 1]) (count : Nat) (enough : rest.length ≤ count) :
    (nameWays text cursor).flatMap ((nameWays text).greedily count) =
      ((ends rest ++ [0]).map (· + 1)).map (advanced cursor) := by
  rw [way, List.flatMap_singleton, later.greedily enough, List.map_map]
  exact List.map_congr_left fun length _ => advanced_advanced cursor 1 length

theorem roundsEnd (remains : text.drop cursor.position = rest) : RoundsEnd text rest cursor := by
  induction rest using ends.induct generalizing cursor with
  | case1 rest inductiveHypothesis =>
      intro count enough
      have pairBehind : text.drop (advanced cursor 2).position = rest :=
        drop_moveTo ['\\', '='] remains
      have signBehind : text.drop (advanced cursor 1).position = '=' :: rest :=
        drop_moveTo ['\\'] remains
      have noRound : RoundsEnd text ('=' :: rest) (advanced cursor 1) := by
        intro rounds _
        rw [nameWays_single signBehind nofun]
        rfl
      rw [List.length_cons, List.length_cons] at enough
      have afterPair := (inductiveHypothesis pairBehind).greedily (show rest.length ≤ count by omega)
      have afterBackslash :=
        noRound.greedily (show rest.length + 1 ≤ count by omega)
      have pairLater : (ends rest ++ [0]).map (advanced (advanced cursor 2)) =
          ((ends rest ++ [0]).map (· + 2)).map (advanced cursor) := by
        rw [List.map_map]
        exact List.map_congr_left fun length _ => advanced_advanced cursor 2 length
      rw [nameWays_pair remains, List.flatMap_cons, List.flatMap_singleton, ends, List.map_append,
        ← pairLater, ← afterPair]
      exact congrArg (_ ++ ·) afterBackslash
  | case2 rest notPair =>
      intro count _
      rw [nameWays_single remains nofun]
      rfl
  | case3 character rest notPair noSign inductiveHypothesis =>
      intro count enough
      have behind : text.drop (advanced cursor 1).position = rest :=
        drop_moveTo [character] remains
      have way : nameWays text cursor = [advanced cursor 1] :=
        (nameWays_single remains fun same later sign => notPair later same sign).trans (if_neg noSign)
      rw [ends.eq_2 character rest notPair, if_neg noSign]
      exact (inductiveHypothesis behind).single way count (Nat.le_of_succ_le_succ enough)
  | case4 =>
      intro count _
      rw [nameWays_nil remains]
      rfl

/-! ## Runs over a value -/

def valueWays (text : List Char) : Ways :=
  valueItem.ways text.toArray form.flags

theorem valueWays_eq (text : List Char) :
    valueWays text = Ways.consume text.toArray fun _ => true := by
  have anything : forall candidate, (Regex.membersAdmit form.flags
      [.category ⟨.space, false⟩, .category ⟨.space, true⟩] candidate != false) = true := by
    intro candidate
    simp [Regex.membersAdmit, form, Regex.Member.contains, Regex.Category.contains]
  exact congrArg (Ways.consume text.toArray) (funext anything)

theorem valueWays_cons (remains : text.drop cursor.position = character :: rest) :
    valueWays text cursor = [advanced cursor 1] := by
  rw [valueWays_eq, consume_of_drop_cons remains]
  rfl

/-- A value first ends where the text does.  Nothing has to follow it, so this
is the only end that counts. -/
theorem head?_greedily_valueWays (remains : text.drop cursor.position = rest)
    (enough : rest.length ≤ count) :
    ((valueWays text).greedily count cursor).head? = some (advanced cursor rest.length) := by
  induction rest generalizing cursor count with
  | nil =>
      cases count with
      | zero => rfl
      | succ count =>
          have noWay : valueWays text cursor = [] := by
            rw [valueWays_eq, consume_of_drop_nil remains]
          rw [Ways.greedily]
          simp only [noWay]
          rfl
  | cons character rest inductiveHypothesis =>
      cases count with
      | zero => cases enough
      | succ count =>
          have behind : text.drop (advanced cursor 1).position = rest :=
            drop_moveTo [character] remains
          have later := inductiveHypothesis behind (Nat.le_of_succ_le_succ enough)
          have moves : Ways.unlessIdle cursor ((valueWays text).greedily count) (advanced cursor 1) =
              (valueWays text).greedily count (advanced cursor 1) :=
            if_neg (Nat.succ_ne_self cursor.position)
          rw [Ways.greedily]
          simp only [valueWays_cons remains, List.flatMap_singleton, moves, List.head?_append, later,
            Option.some_or, advanced_advanced, List.length_cons]

/-! ## Runs over an assignment -/

/-- What has been captured when the name has so many of the characters. -/
def capturedAt (text : List Char) (length : Nat) : Cursor where
  position := text.length
  opened := [(2, length + 1), (1, 0)]
  closed := [(2, text.length), (1, length)]

def acceptsWhole (text : List Char) (reached : Cursor) : Option Cursor :=
  if reached.position == text.toArray.size then some reached else none

theorem findSome?_ite {Item Answer : Type} (holds : Item -> Bool) (answer : Item -> Answer)
    (items : List Item) :
    (items.findSome? fun item => if holds item then some (answer item) else none) =
      (items.find? holds).map answer := by
  rw [List.find?_eq_findSome?_guard, List.map_findSome?]
  congr 1
  funext item
  by_cases here : holds item = true <;> simp [Option.guard, here]

def nameOpened : Cursor :=
  (Cursor.start 0).openGroup 1

theorem ways_name (text : List Char) :
    Expr.ways text.toArray (.repeated .greedy 1 none nameItem) form.flags nameOpened =
      (ends text).map (advanced nameOpened) := by
  have once : Ways.times (nameWays text) 1 nameOpened = nameWays text nameOpened :=
    List.flatMap_singleton' _
  have rounds : RoundsEnd text text nameOpened := roundsEnd rfl
  refine Eq.trans ?_ (rounds (text.toArray.size - 0 + 1) ?_)
  · rw [← once]
    rfl
  · rw [List.size_toArray]
    omega

def nameClosed (length : Nat) : Cursor :=
  (advanced nameOpened length).closeGroup 1

theorem position_nameClosed (length : Nat) : (nameClosed length).position = length :=
  Nat.zero_add length

/-- A value that begins here is what is left of the text, whatever it
holds. -/
theorem findSome?_ways_value (inside : cursor.position ≤ text.length) :
    (Expr.ways text.toArray (.capture 2 (.repeated .greedy 0 none valueItem)) form.flags
        cursor).findSome? (acceptsWhole text) =
      some (((cursor.openGroup 2).moveTo text.length).closeGroup 2) := by
  have atEnd : advanced (cursor.openGroup 2) (text.drop (cursor.openGroup 2).position).length =
      (cursor.openGroup 2).moveTo text.length := by
    rw [advanced, List.length_drop]
    exact congrArg _ (Nat.add_sub_of_le inside)
  have enough : (text.drop (cursor.openGroup 2).position).length ≤
      text.toArray.size - cursor.position + 1 := by
    rw [List.length_drop, List.size_toArray]
    exact Nat.le_succ _
  have first := head?_greedily_valueWays rfl enough
  rw [atEnd] at first
  rcases List.head?_eq_some_iff.mp first with ⟨others, places⟩
  have ways : Expr.ways text.toArray (.capture 2 (.repeated .greedy 0 none valueItem)) form.flags
      cursor = (((cursor.openGroup 2).moveTo text.length) :: others).map (Cursor.closeGroup · 2) := by
    rw [← places]
    exact congrArg (List.map (Cursor.closeGroup · 2)) (List.flatMap_singleton _ _)
  have accepted : acceptsWhole text (((cursor.openGroup 2).moveTo text.length).closeGroup 2) =
      some (((cursor.openGroup 2).moveTo text.length).closeGroup 2) :=
    if_pos (beq_iff_eq.mpr List.size_toArray.symm)
  rw [ways, List.map_cons, List.findSome?_cons, accepted]

/-- Behind the name an equals sign has to stand, and then the value takes the
rest. -/
theorem findSome?_ways_tail (text : List Char) (length : Nat) :
    (Expr.ways text.toArray
        (.seq (.literal false '='.toNat) (.capture 2 (.repeated .greedy 0 none valueItem))) form.flags
        (nameClosed length)).findSome? (acceptsWhole text) =
      if signAt text length then some (capturedAt text length) else none := by
  have position := position_nameClosed length
  rw [Expr.ways, Regex.findSome?_flatMap]
  cases remains : text.drop length with
  | nil =>
      have absent : text[length]? = none := by
        rw [← List.head?_drop, remains, List.head?_nil]
      rw [signAt, absent, Expr.ways, consume_of_drop_nil (position.symm ▸ remains)]
      rfl
  | cons character rest =>
      have present : text[length]? = some character := by
        rw [← List.head?_drop, remains, List.head?_cons]
      have inside : length < text.length := (List.getElem?_eq_some_iff.mp present).1
      rw [signAt, present, ways_sign (position.symm ▸ remains)]
      by_cases sign : character = '='
      · rw [if_pos sign, if_pos (by rw [sign]; rfl), List.findSome?_singleton,
          findSome?_ways_value (by rw [position]; exact inside)]
        simp only [nameClosed, nameOpened, advanced, capturedAt, Cursor.openGroup, Cursor.closeGroup,
          Cursor.moveTo, Cursor.start, Nat.zero_add]
      · rw [if_neg sign, if_neg (by simpa using sign)]
        rfl

/-- The name is the first of its possible ones behind which an equals sign
stands. -/
theorem matchWhole?_form (text : List Char) :
    form.matchWhole? text.toArray =
      ((ends text).find? (signAt text)).map fun length =>
        ⟨0, text.length, capturedAt text length⟩ := by
  have named : Expr.ways text.toArray (.capture 1 (.repeated .greedy 1 none nameItem)) form.flags
      (.start 0) = (ends text).map nameClosed := by
    refine (congrArg (List.map (Cursor.closeGroup · 1)) (ways_name text)).trans ?_
    rw [List.map_map]
    rfl
  have body : form.body.ways text.toArray form.flags (.start 0) =
      ((ends text).map nameClosed).flatMap (Expr.ways text.toArray
        (.seq (.literal false '='.toNat) (.capture 2 (.repeated .greedy 0 none valueItem)))
          form.flags) := congrArg (List.flatMap _) named
  have ran : form.body.run text.toArray form.flags (.start 0) (acceptsWhole text) =
      ((ends text).find? (signAt text)).map (capturedAt text) := by
    rw [Expr.tries_run, body, Regex.findSome?_flatMap, List.findSome?_map]
    refine Eq.trans ?_ (findSome?_ite _ (capturedAt text) (ends text))
    exact congrArg (List.findSome? · (ends text)) (funext (findSome?_ways_tail text))
  refine (congrArg (Option.map _) ran).trans ?_
  rw [Option.map_map]
  rfl

theorem part?_name (text : List Char) (start stop length : Nat) :
    part? text.toArray ⟨start, stop, capturedAt text length⟩ "name" = some (text.take length) := by
  have captured : (capturedAt text length).captured? 1 = some (0, length) := by
    simp [capturedAt, Cursor.captured?, List.lookup_cons]
  have number : form.groupNamed? "name" = some 1 := rfl
  rw [part?, number, Option.bind_eq_bind, Option.bind_some, Regex.Match.captured?, captured]
  simp

theorem part?_value (text : List Char) (start stop : Nat) {length : Nat}
    (inside : length < text.length) :
    part? text.toArray ⟨start, stop, capturedAt text length⟩ "value" =
      some (text.drop (length + 1)) := by
  have captured : (capturedAt text length).captured? 2 = some (length + 1, text.length) :=
    if_pos inside
  have number : form.groupNamed? "value" = some 2 := rfl
  rw [part?, number, Option.bind_eq_bind, Option.bind_some, Regex.Match.captured?, captured]
  simp [List.take_of_length_le]

/-- What is taken apart is the name and all that follows the equals sign
behind it. -/
theorem split?_eq (text : List Char) :
    split? text = ((ends text).find? (signAt text)).map fun length =>
      (text.take length, text.drop (length + 1)) := by
  unfold split?
  dsimp only
  rw [matchWhole?_form]
  cases found : (ends text).find? (signAt text) with
  | none => rfl
  | some length =>
      have stands := List.find?_some found
      have sign : text[length]? = some '=' := eq_of_beq stands
      have inside : length < text.length := (List.getElem?_eq_some_iff.mp sign).1
      rw [Option.map_some, Option.map_some, Option.bind_eq_bind, Option.bind_some, part?_name,
        Option.bind_eq_bind, Option.bind_some, part?_value text _ _ inside]
      rfl

/-! ## Where the text is taken apart -/

/-- A backslash immediately precedes every equals sign in the text.  The
backslash may itself have one before it. -/
def AllEscaped (text : List Char) : Prop :=
  forall before after, text = before ++ '=' :: after -> before.getLast? = some '\\'

/-- The text is split at its first equals sign that no backslash precedes:
every sign in front of it is escaped. -/
structure SplitsAtFirst (text front back : List Char) : Prop where
  written : text = front ++ '=' :: back
  plain : front.getLast? ≠ some '\\'
  earlier : AllEscaped front

/-- The text is split at its last equals sign, and a backslash precedes every
one. -/
structure SplitsAtLast (text front back : List Char) : Prop where
  written : text = front ++ '=' :: back
  later : '=' ∉ back
  all : AllEscaped text

/-- The text is split at its first plain sign or else, if all are escaped, at
the last. -/
def Splits (text front back : List Char) : Prop :=
  SplitsAtFirst text front back ∨ SplitsAtLast text front back

theorem Splits.written (splits : Splits text front back) : text = front ++ '=' :: back := by
  rcases splits with atFirst | atLast
  · exact atFirst.written
  · exact atLast.written

/-- A text is split in one way only, so the two kinds of split exclude each
other: of two different ones, one would have its sign inside the front of the
other. -/
theorem Splits.unique {otherFront otherBack : List Char} (splits : Splits text front back)
    (other : Splits text otherFront otherBack) : front = otherFront ∧ back = otherBack := by
  have notInside : forall {front back otherFront otherBack between : List Char},
      Splits text front back -> Splits text otherFront otherBack ->
        front ≠ otherFront ++ '=' :: between := by
    rintro front back otherFront otherBack between splits other rfl
    have sign := other.written
    rcases other with atFirst | atLast
    · rcases splits with first | last
      · exact atFirst.plain (first.earlier otherFront between rfl)
      · exact atFirst.plain (last.all otherFront otherBack sign)
    · have whole := splits.written.symm.trans sign
      rw [List.append_assoc, List.append_cancel_left_eq, List.cons_append, List.cons.injEq] at whole
      exact atLast.later (whole.2 ▸ List.mem_append_right _ List.mem_cons_self)
  rcases List.append_eq_append_iff.mp (splits.written.symm.trans other.written) with
    ⟨between, isFront, isBack⟩ | ⟨between, isFront, isBack⟩
  · cases between with
    | nil =>
        rw [List.append_nil] at isFront
        exact ⟨isFront.symm, (List.cons.inj isBack).2⟩
    | cons sign rest =>
        cases (List.cons.inj isBack).1
        exact absurd isFront (notInside other splits)
  · cases between with
    | nil =>
        rw [List.append_nil] at isFront
        exact ⟨isFront, (List.cons.inj isBack).2.symm⟩
    | cons sign rest =>
        cases (List.cons.inj isBack).1
        exact absurd isFront (notInside splits other)

theorem allEscaped_of_not_mem (unsigned : '=' ∉ text) : AllEscaped text := by
  rintro before after rfl
  exact absurd (List.mem_append_right _ List.mem_cons_self) unsigned

theorem getLast?_cons_of_eq_some {last : Char} (ends : text.getLast? = some last) :
    (character :: text).getLast? = some last := by
  rw [List.getLast?_cons, ends]
  rfl

theorem AllEscaped.cons (escaped : AllEscaped text) (noSign : character ≠ '=') :
    AllEscaped (character :: text) := by
  intro before after written
  rcases List.cons_eq_append_iff.mp written with ⟨_, first⟩ | ⟨others, rfl, isRest⟩
  · exact absurd (List.cons.inj first).1.symm noSign
  · exact getLast?_cons_of_eq_some (escaped others after isRest)

theorem AllEscaped.pair (escaped : AllEscaped text) : AllEscaped ('\\' :: '=' :: text) := by
  intro before after written
  rcases List.cons_eq_append_iff.mp written with ⟨_, first⟩ | ⟨others, rfl, isRest⟩
  · cases first
  · rcases List.cons_eq_append_iff.mp isRest with ⟨rfl, _⟩ | ⟨more, rfl, isMore⟩
    · rfl
    · exact getLast?_cons_of_eq_some (getLast?_cons_of_eq_some (escaped more after isMore))

/-- Behind a character that neither is an equals sign nor escapes one the text
is split as it is without the character. -/
theorem Splits.cons (splits : Splits rest front back) (noSign : character ≠ '=')
    (notPair : character = '\\' -> forall later, rest ≠ '=' :: later) :
    Splits (character :: rest) (character :: front) back := by
  have written : character :: rest = (character :: front) ++ '=' :: back :=
    congrArg (character :: ·) splits.written
  rcases splits with atFirst | atLast
  · refine .inl ⟨written, ?_, atFirst.earlier.cons noSign⟩
    cases front with
    | nil => exact fun backslash => notPair (Option.some.inj backslash) back atFirst.written
    | cons first others => exact atFirst.plain
  · exact .inr ⟨written, atLast.later, atLast.all.cons noSign⟩

/-- Nor does an escaped sign change anything: what follows it is split as it
would be alone. -/
theorem Splits.pair (splits : Splits rest front back) :
    Splits ('\\' :: '=' :: rest) ('\\' :: '=' :: front) back := by
  have written : '\\' :: '=' :: rest = ('\\' :: '=' :: front) ++ '=' :: back :=
    congrArg ('\\' :: '=' :: ·) splits.written
  rcases splits with atFirst | atLast
  · refine .inl ⟨written, ?_, atFirst.earlier.pair⟩
    cases front with
    | nil => exact nofun
    | cons first others => exact atFirst.plain
  · exact .inr ⟨written, atLast.later, atLast.all.pair⟩

/-- Where a text is split, if it is. -/
inductive Stops (text : List Char) : Option Nat -> Prop where
  | atSign {length : Nat} (splits : Splits text (text.take length) (text.drop (length + 1))) :
      Stops text (some length)
  | nowhere (absent : '=' ∉ text) : Stops text none

/-- Among all ends of a name that may be empty, the first before a sign is
where the text is split. -/
theorem stops_find? (text : List Char) : Stops text ((ends text ++ [0]).find? (signAt text)) := by
  induction text using ends.induct with
  | case1 rest inductiveHypothesis =>
      have later : (ends ('\\' :: '=' :: rest) ++ [0]).find? (signAt ('\\' :: '=' :: rest)) =
          (((ends rest ++ [0]).find? (signAt rest)).map (· + 2)).or (some 1) := by
        rw [ends, List.append_assoc, List.find?_append, List.find?_map]
        rfl
      rw [later]
      generalize (ends rest ++ [0]).find? (signAt rest) = stop at inductiveHypothesis ⊢
      cases inductiveHypothesis with
      | atSign splits => exact .atSign splits.pair
      | nowhere absent =>
          exact .atSign (.inr ⟨rfl, absent, (allEscaped_of_not_mem absent).pair⟩)
  | case2 rest notPair =>
      exact .atSign (.inl ⟨rfl, nofun, allEscaped_of_not_mem List.not_mem_nil⟩)
  | case3 character rest notPair noSign inductiveHypothesis =>
      have later : (ends (character :: rest) ++ [0]).find? (signAt (character :: rest)) =
          ((ends rest ++ [0]).find? (signAt rest)).map (· + 1) := by
        have notHere : [0].find? (signAt (character :: rest)) = none := by
          simp [signAt, noSign]
        rw [ends.eq_2 character rest notPair, if_neg noSign, List.find?_append, List.find?_map, notHere,
          Option.or_none]
        rfl
      rw [later]
      generalize (ends rest ++ [0]).find? (signAt rest) = stop at inductiveHypothesis ⊢
      cases inductiveHypothesis with
      | atSign splits => exact .atSign (splits.cons noSign fun same more => notPair more same)
      | nowhere absent =>
          exact .nowhere (List.not_mem_cons_of_ne_of_not_mem (Ne.symm noSign) absent)
  | case4 => exact .nowhere List.not_mem_nil

/-- If the text begins with no sign then no split is lost by asking for a name
that is not empty. -/
theorem stops_find?_ends (noSign : forall back, text ≠ '=' :: back) :
    Stops text ((ends text).find? (signAt text)) := by
  have notHere : [0].find? (signAt text) = none := by
    cases text with
    | nil => rfl
    | cons character rest =>
        have different : character ≠ '=' := fun same => noSign rest (same ▸ rfl)
        simp [signAt, different]
  have stops := stops_find? text
  rwa [List.find?_append, notHere, Option.or_none] at stops

/-- A text is taken apart where it is split, unless it begins with the
sign. -/
theorem split?_of_splits (splits : Splits text front back) :
    split? text = if front = [] then none else some (front, back) := by
  cases front with
  | nil =>
      rw [split?_eq, splits.written]
      rfl
  | cons first others =>
      have stops : Stops text ((ends text).find? (signAt text)) := by
        apply stops_find?_ends
        rintro behind rfl
        have atFirst : Splits ('=' :: behind) [] behind :=
          .inl ⟨rfl, nofun, allEscaped_of_not_mem List.not_mem_nil⟩
        cases (atFirst.unique splits).1
      rw [split?_eq, if_neg (List.cons_ne_nil first others)]
      generalize (ends text).find? (signAt text) = stop at stops ⊢
      cases stops with
      | atSign found =>
          rcases found.unique splits with ⟨isFront, isBack⟩
          rw [Option.map_some, isFront, isBack]
      | nowhere absent =>
          rw [splits.written] at absent
          exact absurd (List.mem_append_right _ List.mem_cons_self) absent

/-- A text without an equals sign is not taken apart. -/
theorem split?_of_not_mem (absent : '=' ∉ text) : split? text = none := by
  have stops : Stops text ((ends text).find? (signAt text)) := by
    apply stops_find?_ends
    rintro behind rfl
    exact absent List.mem_cons_self
  rw [split?_eq]
  generalize (ends text).find? (signAt text) = stop at stops ⊢
  cases stops with
  | atSign found =>
      rw [found.written] at absent
      exact absurd (List.mem_append_right _ List.mem_cons_self) absent
  | nowhere _ => rfl

theorem exists_splits (present : '=' ∈ text) : ∃ front back, Splits text front back := by
  have stops := stops_find? text
  generalize (ends text ++ [0]).find? (signAt text) = stop at stops
  cases stops with
  | atSign splits => exact ⟨_, _, splits⟩
  | nowhere absent => exact absurd present absent

/-! ## Reading an assignment -/

/-- What a split makes of a text, if it leaves a name: the name without its
escapes, and the value as it is. -/
theorem parse_of_splits {text : String} (named : front ≠ []) (splits : Splits text.toList front back) :
    parse text = .ok ⟨String.ofList (unescape front), String.ofList back⟩ := by
  rw [parse, split?_of_splits splits, if_neg named]

theorem Splits.atFirst_of_nil (splits : Splits text [] back) : SplitsAtFirst text [] back := by
  rcases splits with atFirst | atLast
  · exact atFirst
  · cases atLast.all [] back atLast.written

/-- Either there is a split that leaves a name, or the text is malformed.
`Splits.not_malformed` excludes that it is both. -/
theorem parse_splits_or (text : String) :
    (∃ front back, front ≠ [] ∧ Splits text.toList front back) ∨
    (((∃ back, SplitsAtFirst text.toList [] back) ∨ '=' ∉ text.toList) ∧
      parse text = .error (.malformedAssignment text)) := by
  by_cases present : '=' ∈ text.toList
  · rcases exists_splits present with ⟨front, back, splits⟩
    by_cases named : front = []
    · subst named
      refine .inr ⟨.inl ⟨back, splits.atFirst_of_nil⟩, ?_⟩
      rw [parse, split?_of_splits splits, if_pos rfl]
    · exact .inl ⟨front, back, named, splits⟩
  · exact .inr ⟨.inr present, by rw [parse, split?_of_not_mem present]⟩

theorem Splits.not_malformed (splits : Splits text front back) (named : front ≠ []) :
    ¬ ((∃ back, SplitsAtFirst text [] back) ∨ '=' ∉ text) := by
  rintro (⟨behind, atFirst⟩ | absent)
  · exact named (splits.unique (.inl atFirst)).1
  · rw [splits.written] at absent
    exact absent (List.mem_append_right _ List.mem_cons_self)

/-- An assignment is split at its first equals sign that no backslash
immediately precedes, and if there is none, at the last equals sign; the name
is what stands before the sign, each backslash and equals sign in it being
replaced by the equals sign, and the value is all that follows.  It is
malformed exactly if the name would be empty or there is no equals sign. -/
theorem parse_splits (text : String) :
    (forall binding, parse text = .ok binding ↔
      ∃ front back, front ≠ [] ∧
        (SplitsAtFirst text.toList front back ∨ SplitsAtLast text.toList front back) ∧
        binding = ⟨String.ofList (unescape front), String.ofList back⟩) ∧
    forall failure, parse text = .error failure ↔
      failure = .malformedAssignment text ∧
        ((∃ back, SplitsAtFirst text.toList [] back) ∨ '=' ∉ text.toList) := by
  rcases parse_splits_or text with ⟨front, back, named, splits⟩ | ⟨malformed, fails⟩
  · have done := parse_of_splits named splits
    constructor
    · intro binding
      rw [done, Except.ok.injEq]
      constructor
      · rintro rfl
        exact ⟨front, back, named, splits, rfl⟩
      · rintro ⟨otherFront, otherBack, _, other, rfl⟩
        rcases splits.unique other with ⟨rfl, rfl⟩
        rfl
    · intro failure
      rw [done]
      exact ⟨nofun, fun both => absurd both.2 (splits.not_malformed named)⟩
  · constructor
    · intro binding
      rw [fails]
      refine ⟨nofun, ?_⟩
      rintro ⟨front, back, named, splits, _⟩
      exact absurd malformed (Splits.not_malformed splits named)
    · intro failure
      rw [fails, Except.error.injEq, eq_comm]
      exact ⟨fun same => ⟨same, malformed⟩, And.left⟩

/-- A sign that a backslash precedes splits the text, too, if there is no
other. -/
theorem parse_escapedSign :
    (¬ ∃ front back, SplitsAtFirst "a\\=b".toList front back) ∧
      parse "a\\=b" = .ok ⟨"a\\", "b"⟩ := by
  have written : "a\\=b".toList = ['a', '\\', '=', 'b'] := rfl
  have atLast : SplitsAtLast "a\\=b".toList ['a', '\\'] ['b'] := by
    refine ⟨written, by decide, ?_⟩
    rw [written]
    have sign : AllEscaped ['\\', '=', 'b'] := (allEscaped_of_not_mem (by decide)).pair
    exact sign.cons (by decide)
  constructor
  · rintro ⟨front, back, atFirst⟩
    have same := (Splits.unique (.inl atFirst) (.inr atLast)).1
    exact atFirst.plain (same ▸ rfl)
  · exact parse_of_splits (List.cons_ne_nil _ _) (.inr atLast)

end Assignment
end Stencil

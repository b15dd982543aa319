import Mathlib.Computability.Language
import Stencil.Proofs.Running.Segment
import Stencil.Proofs.Running.Ways
import Stencil.Regex.Search

namespace Stencil
namespace Regex

/-!
Regular expressions proper and their languages.  An expression made of
characters, classes, sequences, alternatives and greedy or lazy repetitions
matches exactly the words of its language: the run over a text reaches every
position up to which a word of the language stands, and no other.

That is so although a repetition ends with its first round that leads nowhere,
and although the number of its rounds is bounded by the length of the text:
empty rounds add nothing to a word, and without them there are no more rounds
than characters.

The main statement is `Expr.spells_ways`.
-/

namespace Expr

/-- Whether the expression is made of nothing but characters, classes,
sequences, alternatives, groups with flags of their own and greedy or lazy
repetitions.  What these match does not depend on what is around it. -/
def isRegular : Expr -> Bool
  | .empty => true
  | .literal _ _ => true
  | .any => true
  | .set _ _ => true
  | .seq first second => first.isRegular && second.isRegular
  | .alt first second => first.isRegular && second.isRegular
  | .repeated mode _ _ body => mode != .possessive && body.isRegular
  | .flagged _ body => body.isRegular
  | _ => false

def admitted (admits : Nat -> Bool) : Language Char :=
  { word | ∃ character, word = [character] ∧ admits character.toNat = true }

/-- The words of `low` to `high` parts; no fewer than `low` parts are ever
asked for. -/
def repeatedly (language : Language Char) (low : Nat) (high : Option Nat) : Language Char :=
  { word | ∃ extra, (forall limit, high = some limit -> extra ≤ limit - low) ∧
    word ∈ language ^ (low + extra) }

/-- The words that a regular expression proper stands for, under the flags
that hold around it. -/
def language : Expr -> Flags -> Language Char
  | .empty, _ => 1
  | .literal negated code, flags => admitted fun candidate =>
      codeAdmits flags code candidate != negated
  | .any, flags => admitted fun candidate => flags.dotAll || candidate != '\n'.toNat
  | .set negated members, flags => admitted fun candidate =>
      membersAdmit flags members candidate != negated
  | .seq first second, flags => language first flags * language second flags
  | .alt first second, flags => language first flags + language second flags
  | .repeated _ low high body, flags => repeatedly (language body flags) low high
  | .flagged change body, flags => language body (change.apply flags)
  | _, _ => 0

end Expr

/-- The ways lead to exactly the positions up to which a word of the language
stands.  Their order is not told, and nothing is captured on them. -/
def Ways.Spells (text : Array Char) (ways : Ways) (language : Language Char) : Prop :=
  forall cursor reached : Cursor, cursor.position ≤ text.size ->
    (reached ∈ ways cursor ↔ ∃ stop, cursor.position ≤ stop ∧ stop ≤ text.size ∧
      reached = cursor.moveTo stop ∧ segment text cursor.position stop ∈ language)

namespace Ways.Spells

variable {text : Array Char} {ways more : Ways} {first second : Language Char}

theorem here : Ways.Spells text (fun cursor => [cursor]) 1 := by
  intro cursor reached inside
  rw [List.mem_singleton]
  constructor
  · rintro rfl
    exact ⟨reached.position, Nat.le_refl _, inside, rfl, segment_self text _⟩
  · rintro ⟨stop, forward, limit, rfl, nothing⟩
    have length := congrArg List.length ((Language.mem_one _).mp nothing)
    rw [length_segment forward limit, List.length_nil] at length
    have empty : stop = cursor.position := by omega
    rw [empty]
    rfl

theorem consume (admits : Nat -> Bool) :
    Ways.Spells text (Ways.consume text admits) (Expr.admitted admits) := by
  intro cursor reached inside
  have single : forall character, text[cursor.position]? = some character ->
      segment text cursor.position (cursor.position + 1) = [character] := fun character present =>
    segment_eq_cons.mpr ⟨present, segment_self text _⟩
  constructor
  · intro member
    unfold Ways.consume at member
    split at member
    · rename_i character present
      split at member
      · rename_i admitted
        cases List.mem_singleton.mp member
        have limit : cursor.position + 1 ≤ text.size :=
          (Array.getElem?_eq_some_iff.mp present).1
        exact ⟨_, Nat.le_succ _, limit, rfl, character, single character present, admitted⟩
      · cases member
    · cases member
  · rintro ⟨stop, forward, limit, rfl, character, word, admitted⟩
    have length := congrArg List.length word
    rw [length_segment forward limit, List.length_singleton] at length
    obtain rfl : stop = cursor.position + (0 + 1) := by omega
    obtain ⟨present, _⟩ := segment_eq_cons.mp word
    unfold Ways.consume
    rw [present]
    simp only [admitted, if_true, List.mem_singleton]

theorem flatMap (spells : ways.Spells text first) (spellsMore : more.Spells text second) :
    Ways.Spells text (fun cursor => (ways cursor).flatMap more) (first * second) := by
  intro cursor reached inside
  rw [List.mem_flatMap]
  constructor
  · rintro ⟨middle, early, late⟩
    obtain ⟨place, before, limit, rfl, front⟩ := (spells cursor middle inside).mp early
    obtain ⟨stop, after, ending, rfl, back⟩ := (spellsMore _ reached limit).mp late
    refine ⟨stop, Nat.le_trans before after, ending, rfl, ?_⟩
    rw [← segment_append before after]
    exact Language.append_mem_mul front back
  · rintro ⟨stop, forward, ending, rfl, word⟩
    obtain ⟨front, isFirst, back, isSecond, parts⟩ := Language.mem_mul.mp word
    obtain ⟨place, before, after, rfl, rfl⟩ :=
      exists_of_segment_eq_append forward ending parts.symm
    have limit := Nat.le_trans after ending
    refine ⟨cursor.moveTo place, (spells cursor _ inside).mpr ⟨place, before, limit, rfl, isFirst⟩, ?_⟩
    exact (spellsMore _ _ limit).mpr ⟨stop, after, ending, rfl, isSecond⟩

theorem times (spells : ways.Spells text first) (count : Nat) :
    (ways.times count).Spells text (first ^ count) := by
  induction count with
  | zero =>
      rw [pow_zero]
      exact here
  | succ count inductiveHypothesis =>
      rw [pow_succ']
      exact spells.flatMap inductiveHypothesis

end Ways.Spells

/-! ## Rounds -/

def upTo (language : Language Char) (count : Nat) : Language Char :=
  { word | ∃ parts, parts ≤ count ∧ word ∈ language ^ parts }

/-- A word made of parts is made of no more parts than it has characters, none
of them empty. -/
theorem exists_parts_of_mem_pow {language : Language Char} {word : List Char} {count : Nat}
    (member : word ∈ language ^ count) :
    ∃ parts : List (List Char), parts.length ≤ count ∧ parts.length ≤ word.length ∧
      parts.flatten = word ∧ forall part, part ∈ parts -> part ∈ language ∧ part ≠ [] := by
  induction count generalizing word with
  | zero =>
      obtain rfl := (Language.mem_one _).mp member
      exact ⟨[], Nat.le_refl _, Nat.le_refl _, rfl, nofun⟩
  | succ count inductiveHypothesis =>
      rw [pow_succ'] at member
      obtain ⟨front, isPart, back, others, rfl⟩ := Language.mem_mul.mp member
      obtain ⟨parts, few, short, rfl, each⟩ := inductiveHypothesis others
      by_cases empty : front = []
      · subst empty
        exact ⟨parts, Nat.le_succ_of_le few, short, rfl, each⟩
      · refine ⟨front :: parts, Nat.succ_le_succ few, ?_, rfl,
          List.forall_mem_cons.mpr ⟨⟨isPart, empty⟩, each⟩⟩
        have positive := List.length_pos_iff.mpr empty
        rw [List.length_cons, List.length_append]
        omega

theorem flatten_mem_pow {language : Language Char} {parts : List (List Char)}
    (each : forall part, part ∈ parts -> part ∈ language) :
    parts.flatten ∈ language ^ parts.length :=
  Language.mem_pow.mpr ⟨parts, rfl, rfl, each⟩

namespace Ways

variable {text : Array Char} {ways : Ways} {language : Language Char}

theorem self_mem_greedily (ways : Ways) (count : Nat) (cursor : Cursor) :
    cursor ∈ ways.greedily count cursor := by
  cases count with
  | zero => exact List.mem_singleton_self cursor
  | succ count => exact List.mem_append_right _ (List.mem_singleton_self cursor)

/-- As many rounds as a word has parts lead past it, if no part is empty; an
empty one would end the repetition. -/
theorem Spells.mem_greedily (spells : ways.Spells text language) {parts : List (List Char)}
    (each : forall part, part ∈ parts -> part ∈ language ∧ part ≠ []) {count : Nat}
    (enough : parts.length ≤ count) {cursor : Cursor} {stop : Nat}
    (forward : cursor.position ≤ stop) (limit : stop ≤ text.size)
    (word : segment text cursor.position stop = parts.flatten) :
    cursor.moveTo stop ∈ ways.greedily count cursor := by
  induction parts generalizing cursor count with
  | nil =>
      have length := congrArg List.length word
      rw [length_segment forward limit, List.flatten_nil, List.length_nil] at length
      obtain rfl : stop = cursor.position := by omega
      exact self_mem_greedily ways count cursor
  | cons part rest inductiveHypothesis =>
      obtain ⟨⟨isPart, notEmpty⟩, others⟩ := List.forall_mem_cons.mp each
      cases count with
      | zero => cases enough
      | succ count =>
          obtain ⟨middle, before, after, rfl, back⟩ :=
            exists_of_segment_eq_append forward limit word
          have inside := Nat.le_trans after limit
          have first : cursor.moveTo middle ∈ ways cursor :=
            (spells cursor _ (Nat.le_trans before inside)).mpr ⟨middle, before, inside, rfl, isPart⟩
          have moved : (cursor.moveTo middle).position ≠ cursor.position := by
            rintro same
            have nothing : segment text cursor.position middle = [] :=
              same ▸ segment_self text middle
            exact notEmpty nothing
          have further : cursor.moveTo stop ∈ ways.greedily count (cursor.moveTo middle) :=
            inductiveHypothesis others (Nat.le_of_succ_le_succ enough) after back
          refine List.mem_append_left _ (List.mem_flatMap.mpr ⟨_, first, ?_⟩)
          unfold unlessIdle
          rw [if_neg moved]
          exact further

theorem Spells.greedily (spells : ways.Spells text language) (count : Nat) :
    (ways.greedily count).Spells text (upTo language count) := by
  intro cursor reached inside
  constructor
  · intro member
    induction count generalizing cursor with
    | zero =>
        cases List.mem_singleton.mp member
        exact ⟨_, Nat.le_refl _, inside, rfl, 0, Nat.le_refl _, segment_self text _⟩
    | succ count inductiveHypothesis =>
        rcases List.mem_append.mp member with more | done
        · obtain ⟨middle, first, rounds⟩ := List.mem_flatMap.mp more
          obtain ⟨place, before, limit, rfl, part⟩ := (spells cursor middle inside).mp first
          unfold unlessIdle at rounds
          split at rounds
          · cases List.mem_singleton.mp rounds
            refine ⟨place, before, limit, rfl, 1, Nat.succ_le_succ (Nat.zero_le _), ?_⟩
            rw [pow_one]
            exact part
          · obtain ⟨stop, after, ending, rfl, parts, few, others⟩ :=
              inductiveHypothesis _ limit rounds
            refine ⟨stop, Nat.le_trans before after, ending, rfl, parts + 1,
              Nat.succ_le_succ few, ?_⟩
            rw [pow_succ', ← segment_append before after]
            exact Language.append_mem_mul part others
        · cases List.mem_singleton.mp done
          exact ⟨_, Nat.le_refl _, inside, rfl, 0, Nat.zero_le _, segment_self text _⟩
  · rintro ⟨stop, forward, limit, rfl, count', few, word⟩
    obtain ⟨parts, fewer, _, whole, each⟩ := exists_parts_of_mem_pow word
    exact spells.mem_greedily each (Nat.le_trans fewer few) forward limit whole.symm

/-- Lazily the same places are reached as greedily, in another order. -/
theorem mem_lazily_iff (ways : Ways) (count : Nat) (cursor reached : Cursor) :
    reached ∈ ways.lazily count cursor ↔ reached ∈ ways.greedily count cursor := by
  induction count generalizing cursor with
  | zero => exact Iff.rfl
  | succ count inductiveHypothesis =>
      have rounds : forall middle,
          reached ∈ unlessIdle cursor (ways.lazily count) middle ↔
            reached ∈ unlessIdle cursor (ways.greedily count) middle := by
        intro middle
        unfold unlessIdle
        split
        · exact Iff.rfl
        · exact inductiveHypothesis middle
      simp only [Ways.lazily, Ways.greedily, List.mem_cons, List.mem_append, List.mem_flatMap,
        rounds, List.not_mem_nil, or_false]
      exact or_comm

theorem Spells.lazily (spells : ways.Spells text language) (count : Nat) :
    (ways.lazily count).Spells text (upTo language count) := fun cursor reached inside =>
  (mem_lazily_iff ways count cursor reached).trans (spells.greedily count cursor reached inside)

/-- The rounds of a repetition spell as many parts as its bounds allow, since
the length of the text bounds them only where all further parts would be
empty. -/
theorem Spells.repeatedly (spells : ways.Spells text language) {mode : RepeatMode}
    (turnsBack : mode ≠ .possessive) (low : Nat) (high : Option Nat) :
    Ways.Spells text
      (fun cursor =>
        ways.repeatedly mode low (Expr.extraRounds text low high cursor.position) cursor)
      (Expr.repeatedly language low high) := by
  have both : forall extra,
      (ways.repeatedly mode low extra).Spells text (language ^ low * upTo language extra) := by
    intro extra
    cases mode with
    | greedy => exact (spells.times low).flatMap (spells.greedily extra)
    | lazy => exact (spells.times low).flatMap (spells.lazily extra)
    | possessive => exact absurd rfl turnsBack
  intro cursor reached inside
  refine (both _ cursor reached inside).trans ⟨?_, ?_⟩
  · rintro ⟨stop, forward, limit, same, word⟩
    obtain ⟨front, least, back, ⟨extra, few, more⟩, parts⟩ := Language.mem_mul.mp word
    refine ⟨stop, forward, limit, same, extra, ?_, ?_⟩
    · rintro bound rfl
      exact Nat.le_trans few (Nat.min_le_left _ _)
    · rw [← parts, pow_add]
      exact Language.append_mem_mul least more
  · rintro ⟨stop, forward, limit, same, extra, bounded, word⟩
    rw [pow_add] at word
    obtain ⟨front, least, back, more, parts⟩ := Language.mem_mul.mp word
    obtain ⟨rounds, few, short, rfl, each⟩ := exists_parts_of_mem_pow more
    refine ⟨stop, forward, limit, same, ?_⟩
    rw [← parts]
    refine Language.append_mem_mul least
      ⟨rounds.length, ?_, flatten_mem_pow fun part member => (each part member).1⟩
    have length := congrArg List.length parts
    rw [length_segment forward limit, List.length_append] at length
    cases high with
    | none =>
        simp only [Expr.extraRounds]
        omega
    | some bound =>
        have most := bounded bound rfl
        simp only [Expr.extraRounds]
        omega

end Ways

namespace Expr

/-- A run of a regular expression proper reaches what its language says, and
nothing else. -/
theorem spells_ways (text : Array Char) {expr : Expr} (regular : expr.isRegular = true)
    (flags : Flags) : (ways text expr flags).Spells text (language expr flags) := by
  induction expr generalizing flags with
  | empty => exact .here
  | literal negated code => exact .consume _
  | any => exact .consume _
  | set negated members => exact .consume _
  | seq first second firstSpells secondSpells =>
      rw [isRegular, Bool.and_eq_true] at regular
      exact (firstSpells regular.1 flags).flatMap (secondSpells regular.2 flags)
  | alt first second firstSpells secondSpells =>
      rw [isRegular, Bool.and_eq_true] at regular
      intro cursor reached inside
      have left := firstSpells regular.1 flags cursor reached inside
      have right := secondSpells regular.2 flags cursor reached inside
      simp only [ways, List.mem_append, left, right, language, Language.mem_add]
      constructor
      · rintro (⟨stop, forward, limit, same, word⟩ | ⟨stop, forward, limit, same, word⟩)
        · exact ⟨stop, forward, limit, same, .inl word⟩
        · exact ⟨stop, forward, limit, same, .inr word⟩
      · rintro ⟨stop, forward, limit, same, word | word⟩
        · exact .inl ⟨stop, forward, limit, same, word⟩
        · exact .inr ⟨stop, forward, limit, same, word⟩
  | repeated mode low high body bodySpells =>
      rw [isRegular, Bool.and_eq_true] at regular
      exact (bodySpells regular.2 flags).repeatedly (bne_iff_ne.mp regular.1) low high
  | flagged change body bodySpells => exact bodySpells regular (change.apply flags)
  | anchor anchor => cases regular
  | reference group width => cases regular
  | capture group body _ => cases regular
  | atomic body _ => cases regular
  | look behind negated body _ => cases regular
  | conditional group captured otherwise _ _ => cases regular

end Expr

theorem isSome_matchWhole?_iff {regex : Regex} {text : Array Char} :
    (regex.matchWhole? text).isSome = true ↔
      ∃ reached, reached ∈ regex.body.ways text regex.flags (.start 0) ∧
        reached.position = text.size := by
  unfold matchWhole? matchAt?
  rw [Option.isSome_map, Expr.tries_run, List.findSome?_isSome_iff]
  constructor
  · rintro ⟨reached, member, accepted⟩
    refine ⟨reached, member, ?_⟩
    split at accepted
    · rename_i ends
      exact eq_of_beq ends
    · cases accepted
  · rintro ⟨reached, member, ends⟩
    refine ⟨reached, member, ?_⟩
    rw [if_pos (beq_iff_eq.mpr ends)]
    rfl

/-- A regular expression proper matches the words of its language, and no
other texts. -/
theorem isSome_matchWhole?_iff_mem {regex : Regex} (regular : regex.body.isRegular = true)
    (text : Array Char) :
    (regex.matchWhole? text).isSome = true ↔
      text.toList ∈ regex.body.language regex.flags := by
  have spells := Expr.spells_ways text regular regex.flags
  rw [isSome_matchWhole?_iff, ← segment_whole]
  constructor
  · rintro ⟨reached, member, ends⟩
    obtain ⟨stop, _, _, rfl, word⟩ := (spells (.start 0) reached (Nat.zero_le _)).mp member
    exact ends ▸ word
  · intro word
    exact ⟨_, (spells (.start 0) _ (Nat.zero_le _)).mpr
      ⟨text.size, Nat.zero_le _, Nat.le_refl _, rfl, word⟩, rfl⟩

end Regex
end Stencil

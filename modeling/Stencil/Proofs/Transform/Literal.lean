import Stencil.Proofs.Matcher.Completeness
import Stencil.Proofs.Pattern.Exactness
import Stencil.Proofs.Template.Grammar
import Stencil.Proofs.Transform.Replacing
import Stencil.Template.Printer

namespace Stencil

/-!
Transforms without placeholders.  A template that is an escaped text matches
that text and nothing else, so the transform between two such templates
replaces a text by another: where the text stands first, and then behind that,
and so on.  The empty text stands everywhere, and is found once at every
position.

What replacing a text means is said here without patterns.  The main statement
is `Transform.replace_escapeLiteral`.
-/

open Regex (segment)

/-! ## Plain replacement -/

/-- Replaces `old` wherever it stands, from left to right, and goes on behind
it. -/
def replaceOccurrences (old new : List Char) : List Char -> List Char
  | [] => []
  | character :: rest =>
      if old.isPrefixOf (character :: rest) then
        new ++ replaceOccurrences old new (rest.drop (old.length - 1))
      else
        character :: replaceOccurrences old new rest
termination_by text => text.length
decreasing_by
  · simp only [List.length_drop, List.length_cons]
    omega
  · exact Nat.lt_succ_self _

/-- Replaces `old` by `new` in the text; for an empty `old`, puts `new` before
every character and at the end. -/
def replaceText (old new text : List Char) : List Char :=
  if old = [] then
    text.flatMap (fun character => new ++ [character]) ++ new
  else
    replaceOccurrences old new text

section

variable {old new text : List Char}

/-- The new text before every character and at the end is the new text first
and then behind every character. -/
theorem flatMap_append_self (new text : List Char) :
    text.flatMap (fun character => new ++ [character]) ++ new =
      new ++ text.flatMap fun character => character :: new := by
  induction text with
  | nil => exact (List.append_nil new).symm
  | cons character rest inductiveHypothesis =>
      rw [List.flatMap_cons, List.append_assoc, inductiveHypothesis, List.flatMap_cons]
      simp only [List.append_assoc, List.cons_append, List.nil_append]

/-- Where the old text stands the new one is put, and the rest is gone on
with. -/
theorem replaceOccurrences_of_present (nonEmpty : old ≠ []) (stands : old <+: text) :
    replaceOccurrences old new text = new ++ replaceOccurrences old new (text.drop old.length) := by
  cases text with
  | nil => exact absurd (List.prefix_nil.mp stands) nonEmpty
  | cons character rest =>
      have someLength : old.length = old.length - 1 + 1 := by
        have := List.length_pos_iff.mpr nonEmpty
        omega
      rw [replaceOccurrences, if_pos (List.isPrefixOf_iff_prefix.mpr stands)]
      conv_rhs => rw [someLength, List.drop_succ_cons]

theorem replaceOccurrences_of_absent {character : Char} {rest : List Char}
    (notHere : ¬ old <+: character :: rest) :
    replaceOccurrences old new (character :: rest) =
      character :: replaceOccurrences old new rest := by
  rw [replaceOccurrences, if_neg (fun stands => notHere (List.isPrefixOf_iff_prefix.mp stands))]

/-- Where the old text does not stand nothing is changed, up to any place
beyond which it may stand again. -/
theorem replaceOccurrences_drop {text : Array Char} {first limit : Nat} (forward : first ≤ limit)
    (inside : limit ≤ text.size)
    (nowhere : forall position, first ≤ position -> position < limit ->
      ¬ old <+: text.toList.drop position) :
    replaceOccurrences old new (text.toList.drop first) =
      segment text first limit ++ replaceOccurrences old new (text.toList.drop limit) := by
  rcases Nat.exists_eq_add_of_le forward with ⟨width, rfl⟩
  rw [Regex.segment_eq_take]
  induction width generalizing first with
  | zero => rfl
  | succ width inductiveHypothesis =>
      have here : first < text.toList.length := by
        rw [Array.length_toList]
        omega
      have further : first + (width + 1) = first + 1 + width := by omega
      have notHere := nowhere first (Nat.le_refl _) (by omega)
      rw [further] at inside nowhere ⊢
      have later := inductiveHypothesis (Nat.le_add_right _ _) inside
        fun position after before => nowhere position (by omega) before
      rw [List.drop_eq_getElem_cons here] at notHere ⊢
      rw [replaceOccurrences_of_absent notHere, later]
      rfl

end

/-! ## Where a literal stands -/

namespace Matcher

variable {rules : String -> Option String} {literal : String} {matcher : Matcher}
  {text : Array Char} {position : Nat} {nonEmpty : Bool}

/-- The expression for a literal leads over the literal, and nowhere else:
every character in it stands for itself. -/
theorem mem_ways_of_literal (assembled : IsAssembled rules [.literal literal] matcher)
    {cursor reached : Regex.Cursor} :
    reached ∈ matcher.regex.body.ways text matcher.regex.flags cursor ↔
      segment text cursor.position (cursor.position + literal.toList.length) = literal.toList ∧
        reached = cursor.moveTo (cursor.position + literal.toList.length) := by
  rcases assembled.body with ⟨items, assembles, body⟩
  cases assembles with
  | literal _ later =>
      cases later with
      | nil =>
          rw [body, assembled.flags, Regex.literals, mem_ways_literals]
          exact and_congr_right fun _ => List.mem_singleton

/-- The expression for a literal begins with no set, so a search looks at
nothing beforehand. -/
theorem isCandid_of_literal (assembled : IsAssembled rules [.literal literal] matcher) :
    matcher.regex.IsCandid := by
  rcases assembled.body with ⟨items, assembles, body⟩
  cases assembles with
  | literal _ later =>
      cases later with
      | nil =>
          apply Regex.isCandid_of_firstSet?_eq_none
          rw [body, List.append_nil, Regex.literals]
          rcases literal.toList with _ | ⟨first, _ | ⟨second, rest⟩⟩ <;> rfl

theorem accepts_literal_iff :
    (!nonEmpty || position + literal.toList.length != position) = true ↔
      (nonEmpty = true -> literal ≠ "") := by
  have isEmpty : literal = "" ↔ literal.toList.length = 0 := by
    rw [List.length_eq_zero_iff, String.toList_eq_nil_iff]
  rw [Ne, isEmpty]
  cases nonEmpty <;> simp

/-- The literal is found only where it stands, up to its end, and an empty one
only where that counts. -/
theorem eq_of_span_attempt? (assembled : IsAssembled rules [.literal literal] matcher)
    {span : Nat × Nat}
    (found : (matcher.regex.attempt? text position nonEmpty).map Regex.Match.span = some span) :
    segment text position (position + literal.toList.length) = literal.toList ∧
      (nonEmpty = true -> literal ≠ "") ∧
      span = (position, position + literal.toList.length) := by
  rcases Option.map_eq_some_iff.mp found with ⟨first, matched, rfl⟩
  rcases Option.map_eq_some_iff.mp matched with ⟨answer, ran, rfl⟩
  rw [Regex.Expr.tries_run, List.findSome?_eq_some_iff] at ran
  rcases ran with ⟨_, reached, _, whole, accepted, _⟩
  have member : reached ∈
      matcher.regex.body.ways text matcher.regex.flags (.start position) :=
    whole ▸ List.mem_append_right _ List.mem_cons_self
  rcases (mem_ways_of_literal assembled).mp member with ⟨stands, rfl⟩
  split at accepted
  · rename_i accepts
    cases accepted
    exact ⟨stands, accepts_literal_iff.mp accepts, rfl⟩
  · cases accepted

/-- The literal is found where it stands, unless it is empty and must not
be. -/
theorem span_attempt? (assembled : IsAssembled rules [.literal literal] matcher)
    (stands : segment text position (position + literal.toList.length) = literal.toList)
    (counts : nonEmpty = true -> literal ≠ "") :
    (matcher.regex.attempt? text position nonEmpty).map Regex.Match.span =
      some (position, position + literal.toList.length) := by
  cases found : (matcher.regex.attempt? text position nonEmpty).map Regex.Match.span with
  | some span => rw [(eq_of_span_attempt? assembled found).2.2]
  | none =>
      have reached : (Regex.Cursor.start position).moveTo (position + literal.toList.length) ∈
          matcher.regex.body.ways text matcher.regex.flags (.start position) :=
        (mem_ways_of_literal assembled).mpr ⟨stands, rfl⟩
      have nothing := Option.map_eq_none_iff.mp (Option.map_eq_none_iff.mp found)
      rw [Regex.Expr.tries_run, List.findSome?_eq_none_iff] at nothing
      have refused := nothing _ reached
      split at refused
      · cases refused
      · rename_i rejects
        exact absurd (accepts_literal_iff.mpr counts) rejects

/-- Where nothing is found the literal does not stand, unless it is empty and
must not be. -/
theorem not_prefix_of_attempt? (assembled : IsAssembled rules [.literal literal] matcher)
    (nothing : matcher.regex.attempt? text position nonEmpty = none)
    (counts : nonEmpty = true -> literal ≠ "") :
    ¬ literal.toList <+: text.toList.drop position := by
  intro stands
  have characters : segment text position (position + literal.toList.length) = literal.toList :=
    (Regex.segment_eq_take text position _).trans (List.prefix_iff_eq_take.mp stands).symm
  have here := span_attempt? assembled characters counts
  rw [nothing] at here
  cases here

theorem not_prefix_of_triesInVain {first limit : Nat}
    (assembled : IsAssembled rules [.literal literal] matcher) (isSome : literal ≠ "")
    (vain : matcher.regex.TriesInVain text first limit nonEmpty) (after : first ≤ position)
    (before : position < limit) : ¬ literal.toList <+: text.toList.drop position :=
  not_prefix_of_attempt? assembled
    (vain.findsNone (isCandid_of_literal assembled) position after before) fun _ => isSome

end Matcher

/-! ## Replacing a literal -/

namespace Transform

open Matcher (IsAssembled)

variable {rules : String -> Option String} {literal written : String} {matcher : Matcher}
  {text : Array Char} {position : Nat} {nonEmpty : Bool} {spans : List (Nat × Nat)}

def rewritesTo (written : String) (spans : List (Nat × Nat)) : List Rewrite :=
  spans.map fun span => ⟨span.1, span.2, written⟩

/-- Splicing in the new text along a sweep is replacing the old one, if that
is not empty. -/
theorem splice_of_sweeps (assembled : IsAssembled rules [.literal literal] matcher)
    (isSome : literal ≠ "") (sweeps : matcher.regex.Sweeps text position nonEmpty spans)
    (inside : position ≤ text.size) :
    splice text position (rewritesTo written spans) =
      replaceOccurrences literal.toList written.toList (text.toList.drop position) := by
  have size : text.toList.length = text.size := Array.length_toList
  induction sweeps with
  | @done position nonEmpty vain =>
      have atEnd : text.toList.drop text.size = [] := List.drop_eq_nil_of_le (Nat.le_of_eq size)
      have nowhere : forall place, position ≤ place -> place < text.size ->
          ¬ literal.toList <+: text.toList.drop place := fun _ after before =>
        Matcher.not_prefix_of_triesInVain assembled isSome vain after (Nat.lt_succ_of_lt before)
      rw [replaceOccurrences_drop inside (Nat.le_refl _) nowhere, atEnd, replaceOccurrences,
        List.append_nil]
      rfl
  | @found position nonEmpty span rest ahead within skipped here later inductiveHypothesis =>
      rcases Matcher.eq_of_span_attempt? assembled here with ⟨stands, _, whole⟩
      have limit := (Regex.Sweeps.forward_of_attempt? within here).2.1
      have stop : span.2 = span.1 + literal.toList.length := congrArg Prod.snd whole
      have isPrefix : literal.toList <+: text.toList.drop span.1 := by
        rw [List.prefix_iff_eq_take, ← Regex.segment_eq_take]
        exact stands.symm
      have nowhere : forall place, position ≤ place -> place < span.1 ->
          ¬ literal.toList <+: text.toList.drop place := fun _ after before =>
        Matcher.not_prefix_of_triesInVain assembled isSome skipped after before
      have characters : literal.toList ≠ [] := mt String.toList_eq_nil_iff.mp isSome
      rw [replaceOccurrences_drop ahead within nowhere,
        replaceOccurrences_of_present characters isPrefix, List.drop_drop, ← stop,
        ← inductiveHypothesis limit, ← List.append_assoc]
      rfl

/-- An attempt that finds nothing where the empty text stands is one that must
not be empty. -/
theorem nonEmpty_of_attempt? (assembled : IsAssembled rules [.literal ""] matcher)
    (nothing : matcher.regex.attempt? text position nonEmpty = none) : nonEmpty = true := by
  by_contra counts
  exact Matcher.not_prefix_of_attempt? assembled nothing (fun required => absurd required counts)
    List.nil_prefix

/-- No position is passed over but one where the empty text has just been
found. -/
theorem limit_of_triesInVain {limit : Nat} (assembled : IsAssembled rules [.literal ""] matcher)
    (vain : matcher.regex.TriesInVain text position limit nonEmpty) :
    limit ≤ position + 1 ∧ (position < limit -> nonEmpty = true) := by
  have nothing := vain.findsNone (Matcher.isCandid_of_literal assembled)
  constructor
  · by_contra further
    have refused := nonEmpty_of_attempt? assembled
      (nothing (position + 1) (Nat.le_succ _) (by omega))
    rw [Bool.and_eq_true, beq_iff_eq] at refused
    omega
  · intro before
    have refused := nonEmpty_of_attempt? assembled (nothing position (Nat.le_refl _) before)
    rw [BEq.rfl, Bool.and_true] at refused
    exact refused

/-- Along a sweep the empty text is found at every position once, but for the
first one if it must not be empty there. -/
theorem splice_of_sweeps_empty (assembled : IsAssembled rules [.literal ""] matcher)
    (sweeps : matcher.regex.Sweeps text position nonEmpty spans) (inside : position ≤ text.size) :
    splice text position (rewritesTo written spans) =
      (if nonEmpty then [] else written.toList) ++
        (text.toList.drop position).flatMap fun character => character :: written.toList := by
  have size : text.toList.length = text.size := Array.length_toList
  induction sweeps with
  | @done position nonEmpty vain =>
      rcases limit_of_triesInVain assembled vain with ⟨limit, required⟩
      have ends : position = text.size := by omega
      have atEnd : text.toList.drop text.size = [] := List.drop_eq_nil_of_le (Nat.le_of_eq size)
      rw [required (Nat.lt_succ_of_le inside), ends, atEnd]
      exact Regex.segment_self text text.size
  | @found position nonEmpty span rest ahead within skipped here later inductiveHypothesis =>
      rcases limit_of_triesInVain assembled skipped with ⟨limit, required⟩
      rcases Matcher.eq_of_span_attempt? assembled here with ⟨_, counts, whole⟩
      rcases span with ⟨start, stop⟩
      have same : stop = start := congrArg Prod.snd whole
      subst same
      have further := inductiveHypothesis within
      rw [BEq.rfl, if_pos rfl, List.nil_append] at further
      have spliced : splice text position (rewritesTo written ((stop, stop) :: rest)) =
          segment text position stop ++ written.toList ++
            splice text stop (rewritesTo written rest) := rfl
      rw [spliced, further]
      rcases Nat.eq_or_lt_of_le ahead with atStart | behind
      · subst atStart
        have mayBeEmpty : nonEmpty = false := by
          rw [BEq.rfl, Bool.and_true] at counts
          exact Bool.eq_false_iff.mpr fun required => counts required rfl
        rw [mayBeEmpty, Regex.segment_self]
        rfl
      · have next : stop = position + 1 := Nat.le_antisymm limit behind
        subst next
        have present : position < text.toList.length := by omega
        rw [required behind, Regex.segment_eq_take, List.drop_eq_getElem_cons present,
          List.flatMap_cons]
        rfl

/-- All that is found of a literal is replaced, and nothing that is not found
of it stands in the text. -/
theorem splice_eq_replaceText (assembled : IsAssembled rules [.literal literal] matcher)
    (sweeps : matcher.regex.Sweeps text 0 false spans) :
    splice text 0 (rewritesTo written spans) =
      replaceText literal.toList written.toList text.toList := by
  by_cases isEmpty : literal = ""
  · subst isEmpty
    have characters : "".toList = [] := rfl
    rw [splice_of_sweeps_empty assembled sweeps (Nat.zero_le _), replaceText, if_pos characters,
      flatMap_append_self]
    rfl
  · have characters : literal.toList ≠ [] := mt String.toList_eq_nil_iff.mp isEmpty
    rw [splice_of_sweeps assembled isEmpty sweeps (Nat.zero_le _), replaceText, if_neg characters]
    rfl

end Transform

/-! ## Transforms between literals -/

namespace Pattern

def ofLiteral (literal : String) : Pattern :=
  .ofTemplate (Template.escapeLiteral literal) ⟨[], literal⟩ fun _ => none

theorem templateOf_escapeLiteral (literal : String) :
    templateOf (Template.escapeLiteral literal) = .ok ⟨[], literal⟩ := by
  have named : Template.HasNames ⟨[], literal⟩ := nofun
  have written : Template.characters ⟨[], literal⟩ =
      (Template.escapeLiteral literal).toList := String.toList_ofList.symm
  rw [templateOf, named.parse written]
  rfl

theorem exists_matcher_ofLiteral (literal : String) :
    ∃ matcher, (ofLiteral literal).compile = .ok matcher ∧
      matcher.IsAssembled (ofLiteral literal).rules.expression? [.literal literal] := by
  have noNames : forall name, name ∈ Fragment.names [.literal literal] ->
      Matcher.isolatedRule (ofLiteral literal).rules.expression? name = .ok name := nofun
  rcases Matcher.ofFragments_of_ruled noNames with ⟨_, matcher, made⟩ | ⟨⟨_, member, _⟩, _⟩
  · exact ⟨matcher, made, Matcher.isAssembled_ofFragments made⟩
  · cases member

/-- A text matches the pattern of another one if it is the same, and there is
nothing to bind. -/
theorem matchWhole_ofLiteral (literal text : String) :
    (ofLiteral literal).matchWhole text = if text = literal then .ok [] else .error .noMatch := by
  have coherent : (ofLiteral literal).IsCoherent := nofun
  have regular : (ofLiteral literal).IsRegular := nofun
  rcases exists_matcher_ofLiteral literal with ⟨matcher, compiles, _⟩
  have whole : Fragment.written (ofLiteral literal).fragments [] = literal.toList :=
    List.append_nil _
  split
  · rename_i same
    subst same
    have explains : (ofLiteral text).Explains [] text := ⟨rfl, nofun, whole.symm⟩
    rcases exists_matchWhole_of_explains coherent compiles regular explains with ⟨found, matched⟩
    have names := (explains_of_matchWhole coherent compiles regular matched).names
    rw [matched, List.map_eq_nil_iff.mp names]
  · rename_i different
    rcases restores_of_matchWhole coherent compiles text with noMatch | ⟨found, matched, _⟩
    · exact noMatch
    · have explains := explains_of_matchWhole coherent compiles regular matched
      have empty : found = [] := List.map_eq_nil_iff.mp explains.names
      have written := explains.written
      rw [empty] at written
      exact absurd (String.toList_inj.mp (written.trans whole)) different

end Pattern

namespace Transform

/-- The transform between two escaped texts can always be made, and passes
every check, since neither side has a placeholder. -/
theorem ofTemplates_escapeLiteral (checked verbose : Bool) (old new : String) :
    ofTemplates checked (Template.escapeLiteral old) (Template.escapeLiteral new) [] verbose =
      .ok ⟨.ofLiteral old, .ofLiteral new, verbose, checked⟩ := by
  unfold ofTemplates Pattern.parse Pattern.derive
  rw [Pattern.templateOf_escapeLiteral, Pattern.templateOf_escapeLiteral]
  cases checked <;> rfl

theorem mapM_rewrite_ofLiteral {transform : Transform Pattern} {new : String}
    (right : transform.right = .ofLiteral new) (visits : List Matcher.Visit) :
    visits.mapM transform.rewrite = .ok (rewritesTo new (visits.map Matcher.Visit.span)) := by
  have each : forall visit, visit ∈ visits ->
      transform.rewrite visit = .ok ⟨visit.start, visit.stop, new⟩ := by
    intro visit _
    rw [rewrite, right]
    rfl
  rw [Except.mapM_eq_ok_map each, rewritesTo, List.map_map]
  rfl

/-- The transform between two escaped texts replaces the one by the other in
every text, and applied to a whole text it gives the other if that is the
one. -/
theorem replace_escapeLiteral (checked verbose : Bool) (old new : String) :
    ∃ transform,
      ofTemplates checked (Template.escapeLiteral old) (Template.escapeLiteral new) [] verbose =
        .ok transform ∧
      forall text,
        transform.replace text =
          .ok (String.ofList (replaceText old.toList new.toList text.toList)) ∧
        transform.apply text = if text = old then .ok new else .error .noMatch := by
  refine ⟨_, ofTemplates_escapeLiteral checked verbose old new, fun text => ?_⟩
  constructor
  · rcases Pattern.exists_matcher_ofLiteral old with ⟨matcher, compiles, assembled⟩
    have coherent : (Pattern.ofLiteral old).IsCoherent := nofun
    rcases Pattern.restores_of_findAll coherent compiles text with ⟨visits, found, _⟩
    have finds : matcher.findAll text = .ok visits := by
      rw [Pattern.findAll, compiles] at found
      exact found
    have sweeps := Regex.sweeps_matchesFrom matcher.regex text.toList.toArray 0 false
    have spans : visits.map Matcher.Visit.span =
        (matcher.regex.matchesFrom text.toList.toArray 0 false).map Regex.Match.span :=
      Matcher.spans_of_findAll finds
    rw [← spans] at sweeps
    rw [replace, found]
    apply Except.bind_eq_ok_iff.mpr
    refine ⟨visits, rfl, Except.bind_eq_ok_iff.mpr ⟨_, mapM_rewrite_ofLiteral rfl visits, ?_⟩⟩
    rw [splice_eq_replaceText assembled sweeps]
    rfl
  · have applied : (Pattern.ofLiteral new).apply [] = .ok new := rfl
    rw [apply, Pattern.matchWhole_ofLiteral]
    split
    · exact applied
    · rfl

-- what overlaps an occurrence that has been replaced is no occurrence any more
example : (ofTemplates false "aa" "$$" [] false).bind (fun transform => transform.replace "aaaxa") =
    .ok "$axa" := by
  decide +kernel

end Transform
end Stencil

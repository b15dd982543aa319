import Stencil.Proofs.Isolation.Acceptance
import Stencil.Proofs.Reading.Placing

namespace Stencil

/-!
When a matcher can be made.  Isolated expressions can be assembled whatever
stands around them, with one exception: an expression that still sets flags
for the whole when it is read alone cannot stand in a group.  The reading goes
along the fragments: between them it holds that the next group name is new,
and in front of the next isolated expression a capturing group has just been
opened.

The main statement is `Matcher.exists_ofFragments_iff`.
-/

open Regex

namespace Matcher

variable {rules : String -> Option String} {count : Nat} {items : List Expr} {reading : Reading}

/-! ## Group names -/

theorem isIdentifier_groupName (index : Nat) :
    Text.isIdentifier (groupName index).toList = true := by
  have begins : Text.beginsIdentifier 'p'.toNat = true := by
    decide +kernel
  rw [toList_groupName, Text.isIdentifier, begins, Bool.true_and, List.all_eq_true]
  intro character member
  exact Text.continuesIdentifier_digit
    (Nat.isDigit_of_mem_toDigits (by decide) (by decide) member)

theorem groupName_injective {first second : Nat} (same : groupName first = groupName second) :
    first = second := by
  have characters := congrArg String.toList same
  rw [toList_groupName, toList_groupName] at characters
  have digits : Nat.toDigits 10 first = Nat.toDigits 10 second := (List.cons.inj characters).2
  calc
    first = Nat.ofDigitChars 10 (Nat.toDigits 10 first) 0 := Nat.ofDigitChars_ten_toDigits.symm
    _ = Nat.ofDigitChars 10 (Nat.toDigits 10 second) 0 := by rw [digits]
    _ = second := Nat.ofDigitChars_ten_toDigits

/-- The name of the next group is new, since names are numbered by the groups
that have been read. -/
theorem Holds.lookup_next (holds : Holds count items reading) :
    reading.assembly.names.lookup (groupName count) = none := by
  cases found : reading.assembly.names.lookup (groupName count) with
  | none => rfl
  | some group =>
      rcases holds.onlyNames _ _ found with ⟨index, below, same, _⟩
      exact absurd (groupName_injective same) (Nat.ne_of_gt below)

/-! ## Fragments -/

theorem Holds.exists_literal (holds : Holds count items reading) (text : String) :
    ∃ later, reading.takeAll (text.toList.map .quoted) = .ok later := by
  rcases reading with ⟨position, mode, assembly⟩
  cases holds.mode
  rcases Reading.takeAll_quoted position holds.verbose text.toList with ⟨stop, taken⟩
  exact ⟨_, taken⟩

theorem Holds.exists_opened (holds : Holds count items reading) :
    ∃ opened, reading.takeAll
        (Token.plain (['(', '?', 'P', '<'] ++ (groupName count).toList ++ ['>'])) = .ok opened ∧
      opened.mode = .item ∧
      opened.assembly.frame = .begin (.capture (count + 1)) reading.position false ∧
      opened.assembly.outer = reading.assembly.frame :: reading.assembly.outer := by
  have isNew := holds.lookup_next
  rcases holds with ⟨mode, _, verbose, _, _, _, groupCount, _, _, _⟩
  rcases reading with ⟨position, _, assembly⟩
  cases mode
  rcases captured : assembly.openCapture (some (groupName count)) position with _ | opened
  · simp only [Assembly.openCapture, isNew] at captured
    cases captured
  rcases frame_openCapture captured with ⟨frame, outer, _⟩
  dsimp only at verbose groupCount
  rw [verbose, groupCount] at frame
  rw [← String.ofList_toList (s := groupName count)] at captured
  rcases Reading.exists_takeAll_named (not_mem_groupName count rfl (by decide))
    (isIdentifier_groupName count) captured with ⟨stop, taken⟩
  exact ⟨_, taken, rfl, frame, outer⟩

/-- An isolated expression can be read in the next group unless it sets flags,
which are misplaced there. -/
theorem Holds.placed {isolated : String} {regex : Regex} (holds : Holds count items reading)
    (compiled : Regex.compile isolated = .ok regex) (capturesNot : regex.groups = 0) :
    (IsFlagless isolated ∧ ∃ later, reading.takeAll
      (Token.plain (['(', '?', 'P', '<'] ++ (groupName count).toList ++ ['>']) ++
        ((Token.split isolated.toList).1 ++ [Reading.closing])) = .ok later) ∨
    ¬ IsFlagless isolated ∧ ∃ start, reading.takeAll
      (Token.plain (['(', '?', 'P', '<'] ++ (groupName count).toList ++ ['>']) ++
        ((Token.split isolated.toList).1 ++ [Reading.closing])) =
          .error (.invalid .misplacedGlobalFlags (some start)) := by
  rcases compile_eq_ok compiled with ⟨assembly, reads, rfl⟩
  rcases holds.exists_opened with ⟨opened, taken, between, frame, outer⟩
  rw [isFlagless_iff reads, Reading.takeAll_append, taken]
  exact Reading.takeAll_placed_closing between frame outer reads.done capturesNot

/-- The assembled expression splits into whole tokens.  Neither a quoted
literal nor what has been isolated ends in a single backslash. -/
theorem whole_written {isolated : String -> String} {fragments : List Fragment}
    (ruled : forall name, name ∈ Fragment.names fragments ->
      isolatedRule rules name = .ok (isolated name)) (count : Nat) :
    (Token.split (written isolated count fragments).toList).2 = false := by
  induction fragments generalizing count with
  | nil => rfl
  | cons fragment rest inductiveHypothesis =>
      cases fragment with
      | literal literal =>
          rw [written, split_literal]
          exact inductiveHypothesis ruled count
      | placeholder name =>
          rcases List.forall_mem_cons.mp ruled with ⟨own, ruledLater⟩
          rcases isolatedRule_eq_ok own with ⟨regex, compiled, _⟩
          rcases compile_eq_ok compiled with ⟨_, reads, _⟩
          rw [written, split_placeholder reads.whole]
          exact inductiveHypothesis ruledLater (count + 1)

/-- The assembled expression can be read to its end unless one of the isolated
expressions sets flags. -/
theorem Holds.takeAll_written {isolated : String -> String} {fragments : List Fragment}
    (holds : Holds count items reading)
    (ruled : forall name, name ∈ Fragment.names fragments ->
      isolatedRule rules name = .ok (isolated name)) :
    ((forall name, name ∈ Fragment.names fragments -> IsFlagless (isolated name)) ∧
      ∃ later, reading.takeAll
        (Token.split (Matcher.written isolated count fragments).toList).1 = .ok later) ∨
    (∃ name, name ∈ Fragment.names fragments ∧ ¬ IsFlagless (isolated name)) ∧
      ∃ start, reading.takeAll (Token.split (Matcher.written isolated count fragments).toList).1 =
        .error (.invalid .misplacedGlobalFlags (some start)) := by
  induction fragments generalizing count items reading with
  | nil => exact .inl ⟨nofun, reading, rfl⟩
  | cons fragment rest inductiveHypothesis =>
      cases fragment with
      | literal literal =>
          rcases holds.exists_literal literal with ⟨middle, first⟩
          rw [Matcher.written, split_literal, Reading.takeAll_append, first]
          exact inductiveHypothesis (holds.literal literal first) ruled
      | placeholder name =>
          rcases List.forall_mem_cons.mp ruled with ⟨own, ruledLater⟩
          rcases isolatedRule_eq_ok own with ⟨regex, compiled, capturesNot⟩
          rcases compile_eq_ok compiled with ⟨_, reads, _⟩
          rw [Matcher.written, split_placeholder reads.whole, Reading.takeAll_append]
          rcases holds.placed compiled capturesNot with
            ⟨flagless, middle, first⟩ | ⟨sets, start, refused⟩
          · rw [first]
            rcases inductiveHypothesis (holds.placeholder compiled capturesNot first).1 ruledLater
              with ⟨others, done⟩ | ⟨⟨other, member, sets⟩, refused⟩
            · exact .inl ⟨List.forall_mem_cons.mpr ⟨flagless, others⟩, done⟩
            · exact .inr ⟨⟨other, List.mem_cons_of_mem _ member, sets⟩, refused⟩
          · rw [refused]
            exact .inr ⟨⟨name, List.mem_cons_self, sets⟩, start, rfl⟩

/-- Nothing gets into the assembled expression that a finished one may not
hold. -/
theorem Assembles.all_isSound {fragments : List Fragment}
    (assembles : Assembles rules count fragments items) : items.all Expr.isSound = true := by
  induction assembles with
  | nil count => rfl
  | @literal count text rest items later inductiveHypothesis =>
      rw [List.all_append, inductiveHypothesis, Bool.and_true, literals, List.all_map]
      exact List.all_eq_true.mpr fun _ _ => rfl
  | @placeholder count name regex rest items stands later inductiveHypothesis =>
      rcases stands.compiled with ⟨isolated, _, compiled⟩
      rcases compile_eq_ok_iff.mp compiled with ⟨assembly, _, noProblem, rfl⟩
      rw [List.all_cons, inductiveHypothesis, Bool.and_true]
      exact Expr.isSound_of_problem? noProblem

/-- Between two fragments the assembled expression may end: no group is open
and nothing has been noted. -/
theorem Holds.finish (holds : Holds count items reading) :
    reading.finish = .ok reading.assembly := by
  have oneClass : (reading.assembly.flags.ascii && reading.assembly.flags.unicode) = false := by
    rw [holds.flags]
    rfl
  have noFault := Reading.endFault?_eq_none holds.outer oneClass holds.conditions
  refine Reading.finish_eq_ok_iff.mpr ⟨reading, ?_, ?_, rfl⟩
  · unfold Reading.complete
    rw [holds.mode]
  · unfold Reading.endFault?
    rw [holds.mode]
    exact noFault

/-! ## The matcher -/

/-- The assembled expression can be compiled unless one of the isolated
expressions sets flags. -/
theorem compile_written {isolated : String -> String} {fragments : List Fragment}
    (ruled : forall name, name ∈ Fragment.names fragments ->
      isolatedRule rules name = .ok (isolated name)) :
    ((forall name, name ∈ Fragment.names fragments -> IsFlagless (isolated name)) ∧
      ∃ regex, Regex.compile (written isolated 0 fragments) = .ok regex) ∨
    (∃ name, name ∈ Fragment.names fragments ∧ ¬ IsFlagless (isolated name)) ∧
      ∃ place, Regex.compile (written isolated 0 fragments) =
        .error (.invalid ⟨.misplacedGlobalFlags, some place⟩) := by
  have whole := whole_written ruled 0
  rcases holds_initial.takeAll_written ruled with ⟨flagless, later, taken⟩ | ⟨sets, start, refused⟩
  · rcases holds_initial.written ruled taken with ⟨items, assembles, holds⟩
    have sound := (Expr.isHereditary_isSound.sequence items).trans assembles.all_isSound
    have body : Assembly.items later.assembly.frame = items := by
      rw [Assembly.items, Frame.allBranches, holds.branches, holds.branch]
      rfl
    refine .inl ⟨flagless, _, compile_eq_ok_iff.mpr ⟨later.assembly, ⟨whole, ?_⟩, ?_, rfl⟩⟩
    · exact Except.bind_eq_ok_iff.mpr ⟨later, taken, holds.finish⟩
    · rw [body, holds.flags]
      exact Option.isNone_iff_eq_none.mp sound
  · refine .inr ⟨sets, Place.of (written isolated 0 fragments).toList start, ?_⟩
    have unread : Reading.read (written isolated 0 fragments).toList =
        .error (.invalid .misplacedGlobalFlags (some start)) := by
      unfold Reading.read
      rcases split : Token.split (written isolated 0 fragments).toList with ⟨tokens, dangling⟩
      rw [split] at whole refused
      cases whole
      dsimp only at refused ⊢
      rw [refused]
      rfl
    unfold Regex.compile
    rw [unread]
    rfl

theorem assembledText_of_ruled {known : List (String × String)} {isolated : String -> String}
    {fragments : List Fragment} (isKnown : IsKnown rules known)
    (ruled : forall name, name ∈ Fragment.names fragments ->
      isolatedRule rules name = .ok (isolated name)) (count : Nat) :
    assembledText rules known count fragments = .ok (written isolated count fragments) := by
  induction fragments generalizing known count with
  | nil => rfl
  | cons fragment rest inductiveHypothesis =>
      cases fragment with
      | literal literal =>
          rw [assembledText, inductiveHypothesis isKnown ruled count]
          rfl
      | placeholder name =>
          rcases List.forall_mem_cons.mp ruled with ⟨own, ruledLater⟩
          rw [assembledText, isKnown.isolatedOnce_eq, own]
          dsimp only [bind, Except.bind]
          rw [inductiveHypothesis (isKnown.cons own) ruledLater (count + 1)]
          rfl

theorem isolatedRule_of_isolate {name expression isolated : String}
    (given : rules name = some expression) (nonEmpty : expression ≠ "")
    (isolates : isolate name expression = .ok isolated) :
    isolatedRule rules name = .ok isolated := by
  unfold isolatedRule
  rw [given]
  dsimp only
  rw [if_neg, isolates]
  rwa [String.isEmpty_iff]

/-- Once every placeholder has an isolated expression the matcher is made,
unless one of these sets flags. -/
theorem ofFragments_of_ruled {isolated : String -> String} {fragments : List Fragment}
    (ruled : forall name, name ∈ Fragment.names fragments ->
      isolatedRule rules name = .ok (isolated name)) :
    ((forall name, name ∈ Fragment.names fragments -> IsFlagless (isolated name)) ∧
      ∃ matcher, ofFragments rules fragments = .ok matcher) ∨
    (∃ name, name ∈ Fragment.names fragments ∧ ¬ IsFlagless (isolated name)) ∧
      ∃ place, ofFragments rules fragments =
        .error (.assembled ⟨.misplacedGlobalFlags, some place⟩) := by
  unfold ofFragments
  rw [assembledText_of_ruled (isKnown_nil rules) ruled 0]
  dsimp only [bind, Except.bind]
  rcases compile_written ruled with ⟨flagless, regex, compiled⟩ | ⟨sets, place, failed⟩
  · rw [compiled]
    exact .inl ⟨flagless, _, rfl⟩
  · rw [failed]
    exact .inr ⟨sets, place, rfl⟩

/-- If every placeholder has an expression that can be isolated, a matcher can
be made exactly when none of the isolated expressions sets flags for the
whole.  Otherwise these flags are what the failure is about. -/
theorem exists_ofFragments_iff {fragments : List Fragment} (isolated : String -> String)
    (isolates : forall name, name ∈ Fragment.names fragments ->
      ∃ expression, rules name = some expression ∧ expression ≠ "" ∧
        isolate name expression = .ok (isolated name)) :
    ((∃ matcher, ofFragments rules fragments = .ok matcher) ↔
      forall name, name ∈ Fragment.names fragments -> IsFlagless (isolated name)) ∧
    forall failure, ofFragments rules fragments = .error failure ->
      ∃ place, failure = .assembled ⟨.misplacedGlobalFlags, some place⟩ := by
  have ruled : forall name, name ∈ Fragment.names fragments ->
      isolatedRule rules name = .ok (isolated name) := by
    intro name member
    rcases isolates name member with ⟨expression, given, nonEmpty, done⟩
    exact isolatedRule_of_isolate given nonEmpty done
  rcases ofFragments_of_ruled ruled with
    ⟨flagless, matcher, made⟩ | ⟨⟨name, member, sets⟩, place, failed⟩
  · rw [made]
    exact ⟨⟨fun _ => flagless, fun _ => ⟨matcher, rfl⟩⟩, nofun⟩
  · rw [failed]
    refine ⟨⟨nofun, fun flagless => absurd (flagless name member) sets⟩, ?_⟩
    intro failure same
    cases same
    exact ⟨place, rfl⟩

def adjacentIsolated (name : String) : String :=
  if name = "c" then "y" else "(?i:(?:x))"

instance (text : String) : Decidable (IsFlagless text) :=
  inferInstanceAs (Decidable ((Reading.read text.toList).map Assembly.flags = .ok {}))

theorem exists_ofFragments_iff_adjacentExample :
    Fragment.names adjacentExample = ["a:b", "c", "a:b"] ∧
      isolate "a:b" "(?i)(?P<w>x)" = .ok "(?i:(?:x))" ∧ isolate "c" "y" = .ok "y" ∧
      ∃ matcher, ofFragments adjacentRules adjacentExample = .ok matcher := by
  have names : Fragment.names adjacentExample = ["a:b", "c", "a:b"] := rfl
  have flagged : isolate "a:b" "(?i)(?P<w>x)" = .ok "(?i:(?:x))" := by
    decide +kernel
  have plain : isolate "c" "y" = .ok "y" := by
    decide +kernel
  refine ⟨names, flagged, plain, ?_⟩
  refine (exists_ofFragments_iff adjacentIsolated ?_).1.mpr ?_
  · rw [names]
    intro name member
    simp only [List.mem_cons, List.not_mem_nil, or_false] at member
    rcases member with rfl | rfl | rfl
    · exact ⟨_, rfl, by decide, flagged⟩
    · exact ⟨_, rfl, by decide, plain⟩
    · exact ⟨_, rfl, by decide, flagged⟩
  · rw [names]
    decide +kernel

/-- Flags after a comment are not moved to a group: the expression is isolated
as it is, but no matcher can be made with it. -/
theorem not_exists_ofFragments_commentedFlags :
    isolate "x" "(?#c)(?i)a" = .ok "(?#c)(?i)a" ∧
      ofFragments (fun _ => some "(?#c)(?i)a") (Fragment.alternating ["", "x", ""]) =
        .error (.assembled ⟨.misplacedGlobalFlags, some ⟨12, none⟩⟩) := by
  decide +kernel

/-- Flags that stand in front of an expression never come in the way: with
expressions without `#` and references to groups a matcher can be made,
whatever stands around them. -/
theorem exists_ofFragments_of_flagsLead {fragments : List Fragment}
    (leads : forall name, name ∈ Fragment.names fragments ->
      ∃ expression original, rules name = some expression ∧ expression ≠ "" ∧
        Regex.compile expression = .ok original ∧ '#' ∉ expression.toList ∧
        original.body.isPositional = true ∧ Reading.FlagsLead expression.toList) :
    ∃ matcher, ofFragments rules fragments = .ok matcher := by
  have ruled : forall name, name ∈ Fragment.names fragments ->
      isolatedRule rules name = .ok (isolatedText rules name) ∧
        IsFlagless (isolatedText rules name) := by
    intro name member
    rcases leads name member with
      ⟨expression, original, given, nonEmpty, compiled, noHash, positional, lead⟩
    rcases exists_equivalent_of_flagsLead name compiled noHash positional lead with
      ⟨isolated, _, isolates, _, _, _, flagless, _⟩
    have done := isolatedRule_of_isolate given nonEmpty isolates
    rw [isolatedText_of_isolatedRule done]
    exact ⟨done, flagless⟩
  rcases ofFragments_of_ruled fun name member => (ruled name member).1 with
    ⟨_, made⟩ | ⟨⟨name, member, sets⟩, _⟩
  · exact made
  · exact absurd (ruled name member).2 sets

end Matcher
end Stencil

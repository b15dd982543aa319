import Stencil.Proofs.Isolation.Meaning
import Stencil.Proofs.Isolation.Regrouping

namespace Stencil
namespace Regex

/-!
Moving leading flags to a group keeps the meaning of an expression, its
captures included.  Where both texts are expressions they have the same groups
and find the same everywhere, and the flags that the expression begins with
are no longer set for the whole, unless a flag is among them that cannot be
set for a group only.
-/

open Isolation (isLeadingFlag flagGroup? splitFlags groupLeadingFlags)

/-- What has been read on the right is what has been read on the left, in a
group that sets its flags.  The groups are the same on both sides, since the
one around captures nothing. -/
structure Assembly.Localises (left right : Assembly) : Prop where
  groupCount : right.groupCount = left.groupCount
  names : right.names = left.names
  items : items right.frame = [.flagged ⟨left.flags, {}⟩ (Expr.sequence (items left.frame))]
  noFlags : right.flags = {}

/-- Where the group is closed, it is all there is on the right.  On the left
nothing may be open there. -/
theorem Assembly.Regrouped.localises {flags : Flags} {left right : Assembly}
    (holds : Regrouped flags left right) (noneOpen : left.outer = []) : left.Localises right.close := by
  rcases holds.similar.atBase noneOpen with ⟨frames, kind, below, _⟩
  rcases holds.similar with ⟨_, _, _, _, leftFlags, rightFlags⟩
  rcases right.notes_close with ⟨groupCount, names, _⟩
  have branches : left.frame.allBranches = right.frame.allBranches :=
    List.forall₂_eq_eq_eq ▸ frames.allBranches Comparison.isCongruent_regrouped
  refine ⟨groupCount.trans holds.groups.groupCount.symm, names.trans holds.groups.names.symm, ?_,
    right.flags_close.trans rightFlags⟩
  rw [(close_of_outer_eq_cons below).2, closedPiece, kind, leftFlags]
  unfold Assembly.items
  rw [branches]
  rfl

namespace Reading

variable {text body letters : List Char} {leftEnd rightEnd : Assembly}

theorem paired_flagged (flags : Flags) (stop other : Nat) :
    Paired (Assembly.Regrouped flags) ⟨stop, .item, Assembly.initial.setFlags flags⟩
      ⟨other, .item, Assembly.initial.openGroup (.flagged ⟨flags, {}⟩) 0 flags.verbose⟩ :=
  ⟨.item, ⟨flags.verbose, .base ⟨rfl, .nil, .nil⟩ rfl rfl rfl rfl rfl, fun _ => rfl, nofun,
    Flags.none_union flags, rfl⟩, rfl, rfl, rfl⟩

/-- The rest of an expression, after its leading flags, is read the same in a
group that sets them.  The group stays open up to its end, and is verbose as
the flags say. -/
theorem localises_of_flagged {flags : Flags} {stop other : Nat}
    (leftReads : ReadsTo ⟨stop, .item, Assembly.initial.setFlags flags⟩ body leftEnd)
    (rightReads : ReadsTo ⟨other, .item, Assembly.initial.openGroup (.flagged ⟨flags, {}⟩) 0
      flags.verbose⟩ (body ++ flags.ending) rightEnd) : leftEnd.Localises rightEnd := by
  rcases (readsTo_append_iff leftReads.whole).mp rightReads with ⟨right, rightTaken, ending⟩
  rcases Except.bind_eq_ok_iff.mp leftReads.done with ⟨left, leftTaken, ended⟩
  rcases finish_eq_ok_iff.mp ended with ⟨leftDone, leftCompleting, noFault, rfl⟩
  rcases mode_of_endFault? leftCompleting noFault with ⟨between, leftEnds⟩
  have kept := Assembly.isKept_regrouped flags
  have paired := paired_takeAll kept (paired_flagged flags stop other) leftTaken rightTaken trivial
  have notNaming : right.mode.isNaming = false :=
    paired.mode.isNaming_eq ▸ isNaming_of_complete leftCompleting
  rcases ending.completes notNaming (fun _ => Flags.mem_ending) with ⟨completed, completing, _⟩
  rcases paired.agree_complete kept none _ _ leftCompleting completing with ⟨modes, related⟩
  have holds := related trivial
  have begunSkips : SkipsComments ⟨other, .item,
      Assembly.initial.openGroup (.flagged ⟨flags, {}⟩) 0 flags.verbose⟩ := skipsComments_of_ne nofun
  have skips := skipsComments_complete (skipsComments_takeAll begunSkips rightTaken) completing
  have noneOpen := outer_of_endFault? leftEnds
  rcases holds.similar.atBase noneOpen with ⟨_, _, below, verbose⟩
  have leftFlags : leftDone.assembly.flags = flags := by
    rcases holds.similar with ⟨_, _, _, _, same, _⟩
    exact same
  rw [leftFlags] at verbose
  have inside : completed.assembly.outer ≠ [] := by
    rw [below]
    exact nofun
  rcases (readsTo_ending_iff notNaming completing (modes.between between) skips inside verbose).mp
    ending with ⟨_, rfl⟩
  exact holds.localises noneOpen

/-- An expression with leading flags is read the same after they have been
moved to a group. -/
theorem localises_of_leadingFlags (split : splitFlags text = (letters, body)) (begins : letters ≠ [])
    (leftReads : initial.ReadsTo text leftEnd)
    (rightReads : initial.ReadsTo (groupLeadingFlags text) rightEnd) :
    leftEnd.Localises rightEnd := by
  rw [groupLeadingFlags_eq split begins] at rightReads
  rcases rightReads.flagged split begins with ⟨other, innerReads⟩
  rcases leftReads.leadingFlags split with ⟨stop, bodyReads, _⟩
  exact localises_of_flagged bodyReads innerReads

end Reading

/-! ## What is found -/

/-- The expressions do the same from every place in every text, each under its
own flags. -/
def SameRuns (first second : Regex) : Prop :=
  forall text : Array Char, first.body.run text first.flags = second.body.run text second.flags

namespace SameRuns

variable {first second : Regex}

theorem matchAt? (same : first.SameRuns second) (text : Array Char) (start : Nat)
    (accepts : Nat -> Bool) : first.matchAt? text start accepts = second.matchAt? text start accepts := by
  unfold Regex.matchAt?
  rw [same text]

variable (same : first.SameRuns second) (alike : first.PassesAlike second)

include same alike

theorem tryAt? (text : Array Char) (start : Nat) (accepts : Nat -> Bool) :
    first.tryAt? text start accepts = second.tryAt? text start accepts := by
  have tried := alike.map_tryAt? (congrArg (Option.map id) (same.matchAt? text start accepts))
  rw [Option.map_id] at tried
  exact tried

theorem searchAmong? (text : Array Char) (count start : Nat) :
    first.searchAmong? text count start = second.searchAmong? text count start := by
  induction count generalizing start with
  | zero => rfl
  | succ count inductiveHypothesis =>
      unfold Regex.searchAmong?
      rw [same.tryAt? alike, inductiveHypothesis]

theorem search? (text : Array Char) (start : Nat) (nonEmpty : Bool) :
    first.search? text start nonEmpty = second.search? text start nonEmpty := by
  unfold Regex.search?
  rw [same.tryAt? alike, same.searchAmong? alike]

theorem matchesFrom (text : Array Char) (start : Nat) (nonEmpty : Bool) :
    first.matchesFrom text start nonEmpty = second.matchesFrom text start nonEmpty := by
  fun_induction first.matchesFrom text start nonEmpty with
  | case1 start nonEmpty nothing =>
      rw [same.search? alike] at nothing
      rw [Regex.matchesFrom_eq, nothing]
  | case2 start nonEmpty found matched inductiveHypothesis =>
      rw [same.search? alike] at matched
      rw [inductiveHypothesis, Regex.matchesFrom_eq second text start, matched]

end SameRuns

/-! ## What is left of the flags -/

/-- A flag group with the letter of a flag that cannot be moved is not found,
since the letters that are found end before it. -/
theorem flagGroup?_flagGroup_eq_none {letters : List Char} (rest : List Char)
    (isFlag : letters.all Opening.isFlagLetter = true) (unmovable : 't' ∈ letters) :
    flagGroup? (flagGroup letters ++ rest) = none := by
  cases group : flagGroup? (flagGroup letters ++ rest) with
  | none => rfl
  | some parts =>
      rcases parts with ⟨found, after⟩
      rcases flagGroup?_eq_some group with ⟨_, leading, same⟩
      have written : flagGroup letters ++ rest = '(' :: '?' :: (letters ++ ')' :: rest) := by
        simp only [flagGroup, List.cons_append, List.append_assoc, List.nil_append]
      rw [written] at same
      have closesNot : ')' ∉ letters :=
        fun member => absurd (List.all_eq_true.mp isFlag _ member) (by decide)
      have foundNot : 't' ∉ found :=
        fun member => absurd (List.all_eq_true.mp leading _ member) (by decide)
      have inside := (List.cons.inj (List.cons.inj same).2).2
      rcases List.append_eq_append_iff.mp inside with ⟨more, rfl, _⟩ | ⟨more, rfl, further⟩
      · exact absurd (List.mem_append_left more unmovable) foundNot
      · cases more with
        | nil => exact absurd (List.append_nil found ▸ unmovable) foundNot
        | cons first others =>
            cases (List.cons.inj further).1
            exact absurd (List.mem_append_right found List.mem_cons_self) closesNot

/-- The flag groups that are found in front are not all empty if the first one
is found. -/
theorem exists_splitFlags_flagGroup {letters : List Char} (rest : List Char)
    (notEmpty : letters ≠ []) (leading : letters.all isLeadingFlag = true) :
    ∃ found body, splitFlags (flagGroup letters ++ rest) = (found, body) ∧ found ≠ [] := by
  have group := flagGroup?_flagGroup rest notEmpty leading
  rw [splitFlags]
  split
  · rename_i absent
    cases group.symm.trans absent
  · rename_i found
    cases group.symm.trans found
    exact ⟨_, _, rfl, List.append_ne_nil_of_left_ne_nil notEmpty _⟩

theorem Flags.unrepeated_ofLetters_of_mem {letters : List Char} (unmovable : 't' ∈ letters) :
    (Flags.ofLetters letters).unrepeated = true := by
  rw [ofLetters_eq_any unrepeated rfl fun _ _ => rfl]
  exact List.any_eq_true.mpr ⟨'t', unmovable, rfl⟩

/-- A flag that an expression sets in front is set in the end, since nothing
takes back what is set for the whole. -/
theorem Reading.unrepeated_of_flagGroup {letters rest : List Char} {ended : Assembly}
    (reads : initial.ReadsTo (flagGroup letters ++ rest) ended) (notEmpty : letters ≠ [])
    (isFlag : letters.all Opening.isFlagLetter = true) (unmovable : 't' ∈ letters) :
    ended.flags.unrepeated = true := by
  have tokens := Token.split_plain (not_mem_flagGroup isFlag)
  rcases (readsTo_append_iff (congrArg Prod.snd tokens)).mp reads with ⟨_, done, laterReads⟩
  rw [tokens] at done
  rcases takeAll_flagGroup notEmpty isFlag done with ⟨stop, rfl⟩
  rcases laterReads.becomes.exists_union with ⟨more, same⟩
  have set : (({} : Flags).union (.ofLetters letters)).unrepeated = true := by
    rw [Flags.none_union]
    exact Flags.unrepeated_ofLetters_of_mem unmovable
  rw [same]
  exact Bool.or_eq_true_iff.mpr (.inl set)

/-- The expressions begin with the same set, under the same flags.  What
differs is only what the whole expression's flags are. -/
theorem Assembly.Localises.firstSet?_eq {left right : Assembly} (localises : left.Localises right)
    (oneClass : (left.flags.ascii && left.flags.unicode) = false) :
    (Expr.sequence (Assembly.items right.frame)).firstSet? right.flags.complete =
      (Expr.sequence (Assembly.items left.frame)).firstSet? left.flags.complete := by
  rw [localises.items, localises.noFlags, ← FlagChange.apply_complete oneClass]
  rfl

/-- Inside the group the flags are those of the whole expression on the
left. -/
theorem Assembly.Localises.run_eq {left right : Assembly} (localises : left.Localises right)
    (oneClass : (left.flags.ascii && left.flags.unicode) = false) (text : Array Char) :
    (Expr.sequence (Assembly.items right.frame)).run text right.flags.complete =
      (Expr.sequence (Assembly.items left.frame)).run text left.flags.complete := by
  rw [localises.items, localises.noFlags, ← FlagChange.apply_complete oneClass]
  rfl

/-- Without leading flags the text stays as it is, and otherwise what is read
is in a group. -/
theorem Reading.eq_or_localises {text : List Char} {leftEnd rightEnd : Assembly}
    (leftReads : initial.ReadsTo text leftEnd)
    (rightReads : initial.ReadsTo (groupLeadingFlags text) rightEnd) :
    leftEnd = rightEnd ∨ leftEnd.Localises rightEnd := by
  rcases split : splitFlags text with ⟨letters, body⟩
  cases letters with
  | nil =>
      rw [groupLeadingFlags_of_splitFlags split] at rightReads
      have read := (read_eq_ok_iff.mpr leftReads).symm.trans (read_eq_ok_iff.mpr rightReads)
      exact .inl (Except.ok.inj read)
  | cons letter others => exact .inr (localises_of_leadingFlags split nofun leftReads rightReads)

/-- Flags that an expression begins with are moved, but for the one that
cannot be. -/
theorem Reading.flags_of_flagGroup {letters rest : List Char} {leftEnd rightEnd : Assembly}
    (leftReads : initial.ReadsTo (flagGroup letters ++ rest) leftEnd)
    (rightReads : initial.ReadsTo (groupLeadingFlags (flagGroup letters ++ rest)) rightEnd)
    (notEmpty : letters ≠ []) (isFlag : letters.all Opening.isFlagLetter = true) :
    rightEnd.flags.complete = { unicode := true } ↔ 't' ∉ letters := by
  constructor
  · intro noFlags unmovable
    have absent := flagGroup?_flagGroup_eq_none rest isFlag unmovable
    have split : splitFlags (flagGroup letters ++ rest) = ([], flagGroup letters ++ rest) := by
      rw [splitFlags]
      split
      · rfl
      · rename_i group
        cases absent.symm.trans group
    rw [groupLeadingFlags_of_splitFlags split] at rightReads
    have set := unrepeated_of_flagGroup rightReads notEmpty isFlag unmovable
    have unset : rightEnd.flags.unrepeated = false := congrArg Flags.unrepeated noFlags
    cases set.symm.trans unset
  · intro movable
    have leading : letters.all isLeadingFlag = true := by
      rw [List.all_eq_true] at isFlag ⊢
      intro letter member
      have flag := isFlag letter member
      rw [Opening.isFlagLetter_eq, Bool.or_eq_true, beq_iff_eq] at flag
      exact flag.resolve_right fun same => movable (same ▸ member)
    rcases exists_splitFlags_flagGroup rest notEmpty leading with ⟨found, body, split, begins⟩
    have localises := localises_of_leadingFlags split begins leftReads rightReads
    rw [localises.noFlags]
    rfl

/-- The groups are the same, what the expressions do, and what they begin
with. -/
theorem sameRuns_of_groupLeadingFlags {expression : String} {original localised : Regex}
    (compiled : compile expression = .ok original)
    (recompiled : compile (String.ofList (groupLeadingFlags expression.toList)) = .ok localised) :
    localised.groups = original.groups ∧ localised.names = original.names ∧
      localised.SameRuns original ∧
      localised.body.firstSet? localised.flags = original.body.firstSet? original.flags := by
  rcases compile_eq_ok compiled with ⟨leftEnd, leftReads, rfl⟩
  rcases compile_eq_ok recompiled with ⟨rightEnd, rightReads, rfl⟩
  rw [String.toList_ofList] at rightReads
  rcases Reading.eq_or_localises leftReads rightReads with rfl | localises
  · exact ⟨rfl, rfl, fun _ => rfl, rfl⟩
  · have oneClass := Reading.oneClass_of_endFault? leftReads.endFault?
    exact ⟨localises.groupCount, localises.names, localises.run_eq oneClass,
      localises.firstSet?_eq oneClass⟩

/-- The classes are not ASCII's for the whole expression once the flags are in
a group. -/
theorem unicode_of_groupLeadingFlags {expression : String} {original localised : Regex}
    (compiled : compile expression = .ok original)
    (recompiled : compile (String.ofList (groupLeadingFlags expression.toList)) = .ok localised)
    (unicode : original.flags.unicode = true) : localised.flags.unicode = true := by
  rcases compile_eq_ok compiled with ⟨leftEnd, leftReads, rfl⟩
  rcases compile_eq_ok recompiled with ⟨rightEnd, rightReads, rfl⟩
  rw [String.toList_ofList] at rightReads
  rcases Reading.eq_or_localises leftReads rightReads with rfl | localises
  · exact unicode
  · rw [localises.noFlags]
    rfl

end Regex

open Regex
open Isolation (groupLeadingFlags)

/-- Where an expression and the same with its leading flags on a group can
both be compiled, they have the same groups with the same names and match at
the same places, with the same captures, in all texts.  A search finds the
same, too, if it passes over the same places; it does unless the classes are
ASCII's for the whole expression, which they are no longer once the flag is on
a group.  If the expression begins with flags these are no longer set for the
whole, but for the one flag that cannot be set for a group. -/
theorem groupLeadingFlags_finds_same {expression : String} {original localised : Regex}
    (compiled : Regex.compile expression = .ok original)
    (recompiled :
      Regex.compile (String.ofList (groupLeadingFlags expression.toList)) = .ok localised) :
    localised.groups = original.groups ∧ localised.names = original.names ∧
      (forall text : Array Char,
        localised.matchWhole? text = original.matchWhole? text ∧
          forall start accepts,
            localised.matchAt? text start accepts = original.matchAt? text start accepts) ∧
      (localised.PassesAlike original -> forall text : Array Char,
        localised.findAll text = original.findAll text ∧
          forall (start : Nat) (nonEmpty : Bool),
            localised.search? text start nonEmpty = original.search? text start nonEmpty) ∧
      (original.flags.unicode = true -> localised.PassesAlike original) ∧
      forall letters rest : List Char, expression.toList = flagGroup letters ++ rest ->
        letters ≠ [] -> letters.all Opening.isFlagLetter = true ->
          (localised.flags = { unicode := true } ↔ 't' ∉ letters) := by
  rcases sameRuns_of_groupLeadingFlags compiled recompiled with ⟨groups, names, same, firstSets⟩
  refine ⟨groups, names, fun text => ⟨same.matchAt? text 0 _, same.matchAt? text⟩, ?_, ?_, ?_⟩
  · exact fun alike text => ⟨same.matchesFrom alike text 0 false, same.search? alike text⟩
  · intro unicode
    have localisedUnicode := unicode_of_groupLeadingFlags compiled recompiled unicode
    exact passesAlike_of_firstSet?_eq firstSets (localisedUnicode.trans unicode.symm)
  · intro letters rest begins notEmpty isFlag
    rcases compile_eq_ok compiled with ⟨leftEnd, leftReads, rfl⟩
    rcases compile_eq_ok recompiled with ⟨rightEnd, rightReads, rfl⟩
    rw [String.toList_ofList, begins] at rightReads
    rw [begins] at leftReads
    exact Reading.flags_of_flagGroup leftReads rightReads notEmpty isFlag

/-- Flags in two groups, a flag that is taken back, a reference, a condition
and a comment at the end. -/
def referringExample : String :=
  "(?xi)(?ii)(?P<sign>[+-])? ((?-i:a)|b)\\2 | (?(sign)c|d) # signed"

def localisedReferringExample : String :=
  "(?xi:(?P<sign>[+-])? ((?-i:a)|b)\\2 | (?(sign)c|d) # signed\n)"

theorem groupLeadingFlags_finds_same_referringExample :
    groupLeadingFlags referringExample.toList = localisedReferringExample.toList ∧
      ∃ original localised, Regex.compile referringExample = .ok original ∧
        Regex.compile localisedReferringExample = .ok localised ∧
        localised.groups = original.groups ∧ localised.names = original.names ∧
        (forall text : Array Char,
          localised.matchWhole? text = original.matchWhole? text ∧
            localised.findAll text = original.findAll text ∧
            forall (start : Nat) (nonEmpty : Bool),
              localised.search? text start nonEmpty = original.search? text start nonEmpty) ∧
        localised.flags = { unicode := true } := by
  have written : groupLeadingFlags referringExample.toList = localisedReferringExample.toList := by
    decide +kernel
  have before : (Regex.compile referringExample).toOption.any (fun original =>
      original.flags.unicode) = true := by
    decide +kernel
  have after : (Regex.compile localisedReferringExample).toOption.any (fun _ => true) = true := by
    decide +kernel
  have begins : referringExample.toList =
      flagGroup ['x', 'i'] ++ referringExample.toList.drop 5 := by
    decide +kernel
  have sameText :
      String.ofList (groupLeadingFlags referringExample.toList) = localisedReferringExample := by
    rw [written, String.ofList_toList]
  obtain ⟨original, compiled, unicode⟩ := Except.exists_ok_of_any before
  obtain ⟨localised, recompiled, _⟩ := Except.exists_ok_of_any after
  obtain ⟨groups, names, matching, finds, alike, flags⟩ :=
    groupLeadingFlags_finds_same compiled (sameText ▸ recompiled)
  refine ⟨written, original, localised, compiled, recompiled, groups, names, fun text => ?_,
    (flags _ _ begins nofun (by decide)).mpr (by decide)⟩
  exact ⟨(matching text).1, finds (alike unicode) text⟩

/-- The letter of the flag that cannot be set for a group is not among those
that are looked for, so an expression that begins with it is left alone and
still sets it for the whole.  Besides, a search may pass over a match once the
classes are ASCII's for the group only. -/
theorem not_flags_groupLeadingFlags :
    ("(?t)a".toList = flagGroup ['t'] ++ ['a'] ∧ groupLeadingFlags "(?t)a".toList = "(?t)a".toList ∧
      ∃ localised, Regex.compile "(?t)a" = .ok localised ∧
        localised.flags = { unicode := true, unrepeated := true }) ∧
    (groupLeadingFlags "(?a)\\W".toList = "(?a:\\W)".toList ∧
      ∃ original localised, Regex.compile "(?a)\\W" = .ok original ∧
        Regex.compile "(?a:\\W)" = .ok localised ∧
        (original.search? #['é'] 0 false).map Match.span = some (0, 1) ∧
        (localised.search? #['é'] 0 false).map Match.span = none) := by
  refine ⟨⟨by decide +kernel, by decide +kernel, ?_⟩, by decide +kernel, ?_⟩
  · have checked : (Regex.compile "(?t)a").toOption.any (fun localised =>
        localised.flags == { unicode := true, unrepeated := true }) = true := by
      decide +kernel
    obtain ⟨localised, compiled, flags⟩ := Except.exists_ok_of_any checked
    exact ⟨localised, compiled, beq_iff_eq.mp flags⟩
  · exact exists_compiled (by decide +kernel)

end Stencil

import Stencil.Matcher
import Stencil.Proofs.Reading.Embedding
import Stencil.Proofs.Reading.Texts

namespace Stencil

/-!
What a matcher is made of.  The tree of the assembled expression is the
sequence of its fragments: the characters of the literals, and for each
placeholder occurrence one capturing group around the tree that the isolated
expression has on its own.  Nothing else captures, no flags are set, and the
groups can be found by their names, and no others.

An expression is isolated for the first occurrence of its name only, so the
text is first shown to be what isolating it for every occurrence would give.
The text is then read fragment by fragment.

The main statements are `Matcher.isAssembled_ofFragments` and
`Matcher.regex_of_ofFragments`.
-/

open Regex

namespace Regex

def literals (text : String) : List Expr :=
  text.toList.map fun character => .literal false character.toNat

end Regex

/-- What can be isolated can be compiled, before and after it is rewritten,
and then captures nothing. -/
theorem isolate_eq_ok {name expression isolated : String}
    (done : isolate name expression = .ok isolated) :
    ∃ original regex, Regex.compile expression = .ok original ∧
      Isolation.rewrite? original.flags.verbose expression = some isolated ∧
      Regex.compile isolated = .ok regex ∧ regex.groups = 0 := by
  rcases Except.bind_eq_ok_iff.mp done with ⟨original, compiled, afterFirst⟩
  dsimp only at afterFirst
  split at afterFirst
  · rename_i rewriting
    rcases Except.bind_eq_ok_iff.mp afterFirst with ⟨rewritten, same, afterSecond⟩
    cases same
    rcases Except.bind_eq_ok_iff.mp afterSecond with ⟨regex, recompiled, last⟩
    split at last
    · rename_i capturesNot
      cases last
      exact ⟨original, regex, Except.mapError_eq_ok_iff.mp compiled, rewriting,
        Except.mapError_eq_ok_iff.mp recompiled, capturesNot⟩
    · cases last
  · cases afterFirst

namespace Matcher

/-- The regular expression that stands for a placeholder.  It is what its
isolated expression compiles to, and it captures nothing and sets no flags for
the whole. -/
structure StandsFor (rules : String -> Option String) (name : String) (regex : Regex) : Prop where
  compiled : ∃ isolated, isolatedRule rules name = .ok isolated ∧
    Regex.compile isolated = .ok regex
  flags : regex.flags = { unicode := true }
  groupFree : regex.body.isGroupFree = true

/-- What is known is what isolating would give again, so looking it up is no
more than saving work. -/
def IsKnown (rules : String -> Option String) (known : List (String × String)) : Prop :=
  forall name isolated, known.lookup name = some isolated -> isolatedRule rules name = .ok isolated

theorem isKnown_nil (rules : String -> Option String) : IsKnown rules [] :=
  nofun

/-- With what is known, isolating has the same outcome as without. -/
theorem IsKnown.isolatedOnce_eq {rules : String -> Option String} {known : List (String × String)}
    (isKnown : IsKnown rules known) (name : String) :
    isolatedOnce rules known name = isolatedRule rules name := by
  unfold isolatedOnce
  split
  · rename_i isolated found
    exact (isKnown name isolated found).symm
  · rfl

theorem IsKnown.cons {rules : String -> Option String} {known : List (String × String)}
    {name isolated : String} (isKnown : IsKnown rules known)
    (ruled : isolatedRule rules name = .ok isolated) : IsKnown rules ((name, isolated) :: known) := by
  intro other found lookup
  by_cases same : other = name
  · subst same
    cases List.lookup_cons_self.symm.trans lookup
    exact ruled
  · rw [List.lookup_cons, beq_eq_false_iff_ne.mpr same] at lookup
    exact isKnown other found lookup

/-- The text for fragments before which `count` placeholders stand, with these
expressions for the placeholders. -/
def written (isolated : String -> String) : (count : Nat) -> List Fragment -> String
  | _, [] => ""
  | count, .literal text :: rest => Regex.quote text ++ written isolated count rest
  | count, .placeholder name :: rest =>
      "(?P<" ++ groupName count ++ ">" ++ isolated name ++ ")" ++ written isolated (count + 1) rest

/-- The isolated expression for a placeholder that has one.  Where there is
none the text is never assembled. -/
def isolatedText (rules : String -> Option String) (name : String) : String :=
  (isolatedRule rules name).toOption.getD ""

theorem isolatedText_of_isolatedRule {rules : String -> Option String} {name isolated : String}
    (ruled : isolatedRule rules name = .ok isolated) : isolatedText rules name = isolated := by
  rw [isolatedText, ruled]
  rfl

/-- The assembled text is the one in which every occurrence is isolated
anew. -/
theorem assembledText_eq_ok {rules : String -> Option String} {known : List (String × String)}
    {count : Nat} {fragments : List Fragment} {text : String} (isKnown : IsKnown rules known)
    (assembled : assembledText rules known count fragments = .ok text) :
    (forall name, name ∈ Fragment.names fragments ->
      isolatedRule rules name = .ok (isolatedText rules name)) ∧
    text = written (isolatedText rules) count fragments := by
  induction fragments generalizing known count text with
  | nil =>
      cases assembled
      exact ⟨nofun, rfl⟩
  | cons fragment rest inductiveHypothesis =>
      cases fragment with
      | literal literal =>
          obtain ⟨remainder, later, same⟩ := Except.bind_eq_ok_iff.mp assembled
          cases same
          obtain ⟨ruled, rfl⟩ := inductiveHypothesis isKnown later
          exact ⟨ruled, rfl⟩
      | placeholder name =>
          obtain ⟨isolated, once, afterRule⟩ := Except.bind_eq_ok_iff.mp assembled
          obtain ⟨remainder, later, same⟩ := Except.bind_eq_ok_iff.mp afterRule
          cases same
          have ruled := (isKnown.isolatedOnce_eq name).symm.trans once
          obtain rfl := isolatedText_of_isolatedRule ruled
          obtain ⟨others, rfl⟩ := inductiveHypothesis (isKnown.cons ruled) later
          exact ⟨List.forall_mem_cons.mpr ⟨ruled, others⟩, rfl⟩

/-- The items that fragments become, before which `count` placeholders stand.
Literal text becomes its characters, and a placeholder a group around the
expression for it. -/
inductive Assembles (rules : String -> Option String) :
    (count : Nat) -> List Fragment -> List Expr -> Prop where
  | nil (count : Nat) : Assembles rules count [] []
  | literal {count : Nat} (text : String) {rest : List Fragment} {items : List Expr}
      (later : Assembles rules count rest items) :
      Assembles rules count (.literal text :: rest) (literals text ++ items)
  | placeholder {count : Nat} {name : String} {regex : Regex} {rest : List Fragment}
      {items : List Expr} (stands : StandsFor rules name regex)
      (later : Assembles rules (count + 1) rest items) :
      Assembles rules count (.placeholder name :: rest)
        (.capture (count + 1) regex.body :: items)

/-- The matcher is made of the fragments: of their items, and of one group for
each occurrence of a placeholder, which alone has a name. -/
structure IsAssembled (rules : String -> Option String) (fragments : List Fragment)
    (matcher : Matcher) : Prop where
  body : ∃ items, Assembles rules 0 fragments items ∧ matcher.regex.body = Expr.sequence items
  flags : matcher.regex.flags = { unicode := true }
  groupNames : matcher.groupNames =
    (List.range (Fragment.names fragments).length).map fun (index : Nat) => groupName index
  placeholderNames : matcher.placeholderNames = Fragment.names fragments
  groups : forall index, index < (Fragment.names fragments).length ->
    matcher.regex.groupNamed? (groupName index) = some (index + 1)
  groupCount : matcher.regex.groups = (Fragment.names fragments).length
  onlyGroups : forall name group, matcher.regex.groupNamed? name = some group ->
    ∃ index, index < (Fragment.names fragments).length ∧ name = groupName index ∧ group = index + 1

/-- The reading is between two items of the assembled expression, `count`
placeholders have been read, and the items are those given.  No group is open,
and every group so far belongs to one of these placeholders. -/
structure Holds (count : Nat) (items : List Expr) (reading : Reading) : Prop where
  mode : reading.mode = .item
  outer : reading.assembly.outer = []
  verbose : reading.assembly.frame.verbose = false
  branches : reading.assembly.frame.branches = []
  branch : reading.assembly.frame.branch = items
  flags : reading.assembly.flags = {}
  groupCount : reading.assembly.groupCount = count
  names : forall index, index < count ->
    reading.assembly.names.lookup (groupName index) = some (index + 1)
  onlyNames : forall name group, reading.assembly.names.lookup name = some group ->
    ∃ index, index < count ∧ name = groupName index ∧ group = index + 1
  conditions : reading.assembly.conditions = []

theorem holds_initial : Holds 0 [] .initial :=
  ⟨rfl, rfl, rfl, rfl, rfl, rfl, rfl, nofun, nofun, rfl⟩

theorem branch_cons (frame : Frame) (piece : Piece) :
    Frame.branch { frame with pieces := piece :: frame.pieces } = frame.branch ++ piece.items := by
  simp [Frame.branch]

theorem branch_pushCharacters (assembly : Assembly) (characters : List Char) :
    (assembly.pushCharacters characters).frame.branch =
      assembly.frame.branch ++ characters.map fun character => .literal false character.toNat := by
  unfold Assembly.pushCharacters
  induction characters generalizing assembly with
  | nil => exact (List.append_nil _).symm
  | cons character rest inductiveHypothesis =>
      rw [List.foldl_cons, inductiveHypothesis, List.map_cons]
      have pushed : (assembly.push (.literal false character.toNat)).frame.branch =
          assembly.frame.branch ++ [.literal false character.toNat] :=
        branch_cons assembly.frame (.single _)
      rw [pushed, List.append_assoc]
      rfl

theorem frame_pushCharacters (assembly : Assembly) (characters : List Char) :
    (assembly.pushCharacters characters).outer = assembly.outer ∧
      (assembly.pushCharacters characters).frame.verbose = assembly.frame.verbose ∧
      (assembly.pushCharacters characters).frame.branches = assembly.frame.branches := by
  unfold Assembly.pushCharacters
  induction characters generalizing assembly with
  | nil => exact ⟨rfl, rfl, rfl⟩
  | cons character rest inductiveHypothesis => exact inductiveHypothesis _

theorem Holds.literal {count : Nat} {items : List Expr} {reading later : Reading}
    (holds : Holds count items reading) (text : String)
    (done : reading.takeAll (text.toList.map .quoted) = .ok later) :
    Holds count (items ++ literals text) later := by
  obtain ⟨position, mode, assembly⟩ := reading
  obtain ⟨rfl, outer, verbose, branches, branch, flags, groupCount, names, onlyNames, conditions⟩ :=
    holds
  obtain ⟨stop, taken⟩ := Reading.takeAll_quoted position verbose text.toList
  obtain rfl := Except.ok.inj (done.symm.trans taken)
  obtain ⟨sameOuter, sameVerbose, sameBranches⟩ := frame_pushCharacters assembly text.toList
  have notes := assembly.sameNotes_pushCharacters text.toList
  refine ⟨rfl, sameOuter.trans outer, sameVerbose.trans verbose, sameBranches.trans branches, ?_,
    notes.flags.symm.trans flags, notes.groupCount.symm.trans groupCount, ?_, ?_,
    notes.conditions.symm.trans conditions⟩
  · exact (branch_pushCharacters assembly text.toList).trans (branch ▸ rfl)
  · exact notes.names ▸ names
  · exact notes.names ▸ onlyNames

theorem toList_groupName (index : Nat) :
    (groupName index).toList = 'p' :: Nat.toDigits 10 index := by
  have digits : toString (index : Int) = index.repr := rfl
  rw [groupName, digits, String.toList_append, Nat.toList_repr]
  rfl

/-- A name that groups may have ends neither a group's name nor anything
before it. -/
theorem not_mem_groupName {symbol : Char} (index : Nat) (notDigit : symbol.isDigit = false)
    (notPrefix : symbol ≠ 'p') : symbol ∉ (groupName index).toList := by
  intro member
  rw [toList_groupName] at member
  rcases List.mem_cons.mp member with same | digit
  · exact notPrefix same
  · have isDigit := Nat.isDigit_of_mem_toDigits (by decide) (by decide) digit
    rw [notDigit] at isDigit
    cases isDigit

/-- A captured name is new, and the other names keep their groups. -/
theorem lookup_openCapture {assembly opened : Assembly} {name : String} {start : Nat}
    (done : assembly.openCapture (some name) start = .ok opened) :
    assembly.names.lookup name = none ∧
      opened.names.lookup name = some (assembly.groupCount + 1) ∧
      forall other, other ≠ name -> opened.names.lookup other = assembly.names.lookup other := by
  unfold Assembly.openCapture at done
  dsimp only at done
  split at done
  · cases done
  · rename_i isNew
    cases done
    refine ⟨isNew, List.lookup_cons_self, fun other different => ?_⟩
    dsimp only [Assembly.openGroup]
    rw [List.lookup_cons, beq_eq_false_iff_ne.mpr different]

/-- The group that a name opens is the next one, and it is as verbose as what
is around it. -/
theorem frame_openCapture {assembly opened : Assembly} {name : String} {start : Nat}
    (done : assembly.openCapture (some name) start = .ok opened) :
    opened.frame = .begin (.capture (assembly.groupCount + 1)) start assembly.frame.verbose ∧
      opened.outer = assembly.frame :: assembly.outer ∧ opened.flags = assembly.flags ∧
      opened.groupCount = assembly.groupCount + 1 ∧ opened.conditions = assembly.conditions := by
  rcases Assembly.openCapture_eq_ok done with rfl
  exact ⟨rfl, rfl, rfl, rfl, rfl⟩

/-- Reading a named group around an isolated expression.  What is read in it
is what the expression is compiled to alone. -/
theorem Holds.placeholder {count : Nat} {items : List Expr} {reading later : Reading}
    {isolated : String} {regex : Regex} (holds : Holds count items reading)
    (compiled : Regex.compile isolated = .ok regex) (capturesNot : regex.groups = 0)
    (done : reading.takeAll
      (Token.plain (['(', '?', 'P', '<'] ++ (groupName count).toList ++ ['>']) ++
        ((Token.split isolated.toList).1 ++ [Reading.closing])) = .ok later) :
    Holds (count + 1) (items ++ [.capture (count + 1) regex.body]) later ∧
      regex.flags = { unicode := true } ∧ regex.body.isGroupFree = true := by
  obtain ⟨position, mode, assembly⟩ := reading
  obtain ⟨rfl, outer, verbose, branches, branch, flags, groupCount, names, onlyNames, conditions⟩ :=
    holds
  rcases compile_eq_ok compiled with ⟨_, ⟨whole, alone⟩, rfl⟩
  obtain ⟨middle, named, inner⟩ := Reading.takeAll_append_eq_ok_iff.mp done
  obtain ⟨stop, opened, rfl, captured⟩ :=
    Reading.takeAll_named (not_mem_groupName count rfl (by decide)) named
  rw [String.ofList_toList] at captured
  obtain ⟨opensFrame, opensOuter, opensFlags, opensCount, opensConditions⟩ :=
    frame_openCapture captured
  obtain ⟨isNew, found, kept⟩ := lookup_openCapture captured
  dsimp only at verbose groupCount
  rw [verbose, groupCount] at opensFrame
  have between : (Reading.mk stop .item opened).mode = .item := rfl
  obtain ⟨mode, closedOuter, closedFrame, closedFlags, closedCount, closedNames, closedConditions,
      noFlags, free⟩ :=
    Reading.takeAll_embedded between opensFrame opensOuter alone capturesNot inner
  refine ⟨⟨mode, closedOuter.trans outer, ?_, ?_, ?_, closedFlags.trans (opensFlags.trans flags),
    closedCount.trans (opensCount.trans (congrArg (· + 1) groupCount)), ?_, ?_,
    closedConditions.trans (opensConditions.trans conditions)⟩, ?_, free⟩
  · rw [closedFrame]
    exact verbose
  · rw [closedFrame]
    exact branches
  · rw [closedFrame, branch_cons]
    exact branch ▸ rfl
  · intro index below
    rw [closedNames]
    rcases Nat.lt_succ_iff_lt_or_eq.mp below with earlier | rfl
    · have different : groupName index ≠ groupName count := by
        intro same
        rw [← same, names index earlier] at isNew
        cases isNew
      rw [kept _ different]
      exact names index earlier
    · rw [found, groupCount]
  · intro name group lookup
    rw [closedNames] at lookup
    by_cases own : name = groupName count
    · rw [own, found] at lookup
      cases lookup
      exact ⟨count, Nat.lt_succ_self count, own, congrArg (· + 1) groupCount⟩
    · rw [kept _ own] at lookup
      obtain ⟨index, below, same⟩ := onlyNames name group lookup
      exact ⟨index, Nat.lt_succ_of_lt below, same⟩
  · rw [noFlags]
    rfl

/-- Only an expression that is given, and is not empty, can be isolated. -/
theorem exists_isolate_of_isolatedRule {rules : String -> Option String} {name isolated : String}
    (done : isolatedRule rules name = .ok isolated) :
    ∃ expression, rules name = some expression ∧ isolate name expression = .ok isolated := by
  unfold isolatedRule at done
  split at done
  · cases done
  · rename_i expression given
    split at done
    · cases done
    · exact ⟨expression, given, done⟩

theorem isolatedRule_eq_ok {rules : String -> Option String} {name isolated : String}
    (done : isolatedRule rules name = .ok isolated) :
    ∃ regex, Regex.compile isolated = .ok regex ∧ regex.groups = 0 := by
  obtain ⟨expression, _, isolates⟩ := exists_isolate_of_isolatedRule done
  rcases isolate_eq_ok isolates with ⟨_, regex, _, _, compiled, capturesNot⟩
  exact ⟨regex, compiled, capturesNot⟩

/-- The tokens of a named group around an isolated expression, and of what
follows it. -/
theorem split_placeholder {isolated : String} (whole : (Token.split isolated.toList).2 = false)
    (count : Nat) (later : String) :
    Token.split ("(?P<" ++ groupName count ++ ">" ++ isolated ++ ")" ++ later).toList =
      (Token.plain (['(', '?', 'P', '<'] ++ (groupName count).toList ++ ['>']) ++
        ((Token.split isolated.toList).1 ++ [Reading.closing]) ++ (Token.split later.toList).1,
      (Token.split later.toList).2) := by
  have written : ("(?P<" ++ groupName count ++ ">" ++ isolated ++ ")" ++ later).toList =
      (['(', '?', 'P', '<'] ++ (groupName count).toList ++ ['>']) ++
        (isolated.toList ++ ([')'] ++ later.toList)) := by
    simp only [String.toList_append, List.append_assoc]
    rfl
  have unescaped : '\\' ∉ ['(', '?', 'P', '<'] ++ (groupName count).toList ++ ['>'] := by
    simp only [List.mem_append, not_or]
    exact ⟨⟨by decide, not_mem_groupName count rfl (by decide)⟩, by decide⟩
  have header := Token.split_plain unescaped
  have closes : Token.split [')'] = ([Reading.closing], false) := rfl
  rw [written, Token.split_append (congrArg Prod.snd header), Token.split_append whole,
    Token.split_append (congrArg Prod.snd closes), header, closes]
  simp only [List.append_assoc]

theorem split_literal (literal later : String) :
    Token.split (quote literal ++ later).toList =
      (literal.toList.map .quoted ++ (Token.split later.toList).1,
        (Token.split later.toList).2) := by
  have quoted : Token.split (quote literal).toList = (literal.toList.map .quoted, false) := by
    rw [quote, String.toList_ofList, Token.split_quoteCharacters]
  rw [String.toList_append, Token.split_append (congrArg Prod.snd quoted), quoted]

/-- Reading the assembled expression, fragment by fragment.  The items before
it are left as they are. -/
theorem Holds.written {rules : String -> Option String} {isolated : String -> String}
    {fragments : List Fragment} {count : Nat} {items : List Expr} {reading later : Reading}
    (holds : Holds count items reading)
    (ruled : forall name, name ∈ Fragment.names fragments ->
      isolatedRule rules name = .ok (isolated name))
    (done : reading.takeAll (Token.split (written isolated count fragments).toList).1 = .ok later) :
    ∃ more, Assembles rules count fragments more ∧
      Holds (count + (Fragment.names fragments).length) (items ++ more) later := by
  induction fragments generalizing count items reading with
  | nil =>
      cases done
      exact ⟨[], .nil count, (List.append_nil items).symm ▸ holds⟩
  | cons fragment rest inductiveHypothesis =>
      cases fragment with
      | literal literal =>
          rw [Matcher.written, split_literal] at done
          obtain ⟨middle, first, others⟩ := Reading.takeAll_append_eq_ok_iff.mp done
          obtain ⟨more, assembles, ends⟩ := inductiveHypothesis (holds.literal literal first) ruled
            others
          refine ⟨literals literal ++ more, .literal literal assembles, ?_⟩
          rw [← List.append_assoc]
          exact ends
      | placeholder name =>
          obtain ⟨own, ruledLater⟩ := List.forall_mem_cons.mp ruled
          obtain ⟨regex, compiled, capturesNot⟩ := isolatedRule_eq_ok own
          rcases compile_eq_ok compiled with ⟨_, ⟨whole, _⟩, _⟩
          rw [Matcher.written, split_placeholder whole] at done
          obtain ⟨middle, first, others⟩ := Reading.takeAll_append_eq_ok_iff.mp done
          obtain ⟨further, flags, groupFree⟩ := holds.placeholder compiled capturesNot first
          obtain ⟨more, assembles, ends⟩ := inductiveHypothesis further ruledLater others
          refine ⟨.capture (count + 1) regex.body :: more,
            .placeholder ⟨⟨isolated name, own, compiled⟩, flags, groupFree⟩ assembles, ?_⟩
          rw [Fragment.names, List.length_cons, Nat.add_comm _ 1, ← Nat.add_assoc,
            ← List.singleton_append, ← List.append_assoc]
          exact ends

/-- Every matcher that can be made is made of its fragments.  All that is
known of matchers comes from here. -/
theorem isAssembled_ofFragments {rules : String -> Option String} {fragments : List Fragment}
    {matcher : Matcher} (made : ofFragments rules fragments = .ok matcher) :
    IsAssembled rules fragments matcher := by
  obtain ⟨text, assembled, afterText⟩ := Except.bind_eq_ok_iff.mp made
  obtain ⟨regex, compiled, same⟩ := Except.bind_eq_ok_iff.mp afterText
  cases same
  rcases compile_eq_ok (Except.mapError_eq_ok_iff.mp compiled) with ⟨assembly, ⟨_, read⟩, rfl⟩
  obtain ⟨ruled, rfl⟩ := assembledText_eq_ok (isKnown_nil rules) assembled
  obtain ⟨reading, taken, ended⟩ := Except.bind_eq_ok_iff.mp read
  obtain ⟨items, assembles, holds⟩ := holds_initial.written ruled taken
  rw [Nat.zero_add, List.nil_append] at holds
  obtain ⟨completed, completing, _, rfl⟩ := Reading.finish_eq_ok_iff.mp ended
  have complete : reading.complete none = .ok reading := by
    unfold Reading.complete
    rw [holds.mode]
  obtain rfl := Except.ok.inj (complete.symm.trans completing)
  have onlyBranch : Assembly.items reading.assembly.frame = items := by
    rw [Assembly.items, Frame.allBranches, holds.branches, holds.branch]
    rfl
  exact ⟨⟨items, assembles, congrArg Expr.sequence onlyBranch⟩, congrArg Flags.complete holds.flags,
    rfl, rfl, holds.names, holds.groupCount, holds.onlyNames⟩

/-- The regular expression of a matcher is the literals, quoted, and the
isolated expressions, each in a named group, one after the other.  It has a
group for each placeholder occurrence, named and numbered in their order, and
no other, and it has no flags but the one that every text has. -/
theorem regex_of_ofFragments {rules : String -> Option String} {fragments : List Fragment}
    {matcher : Matcher} (made : ofFragments rules fragments = .ok matcher) :
    (∃ isolated : String -> String,
      (forall name, name ∈ Fragment.names fragments ->
        ∃ expression, rules name = some expression ∧
          isolate name expression = .ok (isolated name)) ∧
      matcher.regex.text = written isolated 0 fragments) ∧
    (∃ items, Assembles rules 0 fragments items ∧ matcher.regex.body = Expr.sequence items) ∧
    matcher.regex.groups = (Fragment.names fragments).length ∧
    (forall name group, matcher.regex.groupNamed? name = some group ↔
      ∃ index, index < (Fragment.names fragments).length ∧ name = groupName index ∧
        group = index + 1) ∧
    matcher.groupNames =
      (List.range (Fragment.names fragments).length).map (fun (index : Nat) => groupName index) ∧
    matcher.placeholderNames = Fragment.names fragments ∧
    matcher.regex.flags.number = 32 := by
  have assembled := isAssembled_ofFragments made
  obtain ⟨text, given, afterText⟩ := Except.bind_eq_ok_iff.mp made
  obtain ⟨regex, compiled, same⟩ := Except.bind_eq_ok_iff.mp afterText
  cases same
  rcases compile_eq_ok (Except.mapError_eq_ok_iff.mp compiled) with ⟨assembly, _, rfl⟩
  obtain ⟨ruled, rfl⟩ := assembledText_eq_ok (isKnown_nil rules) given
  refine ⟨⟨isolatedText rules, fun name member => ?_, rfl⟩, assembled.body, assembled.groupCount,
    fun name group => ⟨assembled.onlyGroups name group, ?_⟩, assembled.groupNames,
    assembled.placeholderNames, congrArg Flags.number assembled.flags⟩
  · exact exists_isolate_of_isolatedRule (ruled name member)
  · rintro ⟨index, below, rfl, rfl⟩
    exact assembled.groups index below

/-- A repeated name whose expression captures and has a flag, and another one
next to it. -/
def adjacentExample : List Fragment :=
  Fragment.alternating ["1+", "a:b", "", "c", "", "a:b", ""]

def adjacentRules (name : String) : Option String :=
  [("a:b", "(?i)(?P<w>x)"), ("c", "y")].lookup name

theorem regex_of_ofFragments_adjacentExample :
    ∃ matcher, ofFragments adjacentRules adjacentExample = .ok matcher ∧
      matcher.regex.text = "1\\+(?P<p0>(?i:(?:x)))(?P<p1>y)(?P<p2>(?i:(?:x)))" ∧
      matcher.regex.groups = 3 ∧ matcher.groupNames = ["p0", "p1", "p2"] ∧
      matcher.placeholderNames = ["a:b", "c", "a:b"] ∧ matcher.regex.flags.number = 32 := by
  have written : (ofFragments adjacentRules adjacentExample).toOption.map (·.regex.text) =
      some "1\\+(?P<p0>(?i:(?:x)))(?P<p1>y)(?P<p2>(?i:(?:x)))" := by
    decide +kernel
  cases made : ofFragments adjacentRules adjacentExample with
  | error failure =>
      rw [made] at written
      cases written
  | ok matcher =>
      rw [made] at written
      obtain ⟨_, _, groups, _, groupNames, placeholderNames, flags⟩ := regex_of_ofFragments made
      exact ⟨matcher, rfl, Option.some.inj written, groups, groupNames, placeholderNames, flags⟩

end Matcher
end Stencil

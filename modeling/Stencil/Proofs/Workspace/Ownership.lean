import Stencil.Proofs.Pattern.Making
import Stencil.Proofs.Workspace.Coherence

namespace Stencil
namespace Workspace

/-!
Runs and what they note.  A run notes in order what happens to the patterns:
every pattern that is parsed, derived or copied, and every placeholder that is
bound, also by the visitors of searches and by functions that make values.  An
operation that fails notes nothing, so what a run has noted until a failure is
what its visitors had done.

The rules of a pattern are always those it was made with, changed by what has
been noted of its own place since.  That is `ownership_of_runs`.  Transforms
hold places of patterns, and so does the reverse of a transform; what is bound
through one of them is seen through all.
-/

variable {Value Other Memory Item : Type}

/-- What an operation notes: nothing if it fails.  An operation that fails has
changed nothing that is entered. -/
def noted (action : Action Value) (workspace : Workspace) (events : Value -> List Event) :
    List Event :=
  match (action.run.run workspace).1 with
  | .ok value => events value
  | .error _ => []

/-- What is noted while items are visited, where `log` is what each visit
notes. -/
def visitLog (visitor : Item -> Guest Memory Verdict)
    (log : Item -> Memory -> Workspace -> List Event) :
    List (Outcome Item) -> Memory -> Workspace -> List Event
  | .ok item :: rest, memory, workspace =>
      let ((verdict, later), left) := ((visitor item).run memory).run workspace
      log item memory workspace ++
        match verdict with
        | .goOn => visitLog visitor log rest later left
        | _ => []
  | _, _, _ => []

def foundLog (visitor : Item -> Guest Memory Verdict)
    (log : Item -> Memory -> Workspace -> List Event) (found : Outcome (List (Outcome Item)))
    (memory : Memory) (workspace : Workspace) : List Event :=
  match found with
  | .ok items => visitLog visitor log items memory workspace
  | .error _ => []

/-- What is noted while values are made for the placeholders of the pieces,
where `log` is what making each of them notes. -/
def fillLog (value : String -> Nat -> Guest Memory (Except ValueFault String))
    (log : String -> Nat -> Memory -> Workspace -> List Event) :
    (passed : List String) -> List (String × String) -> Memory -> Workspace -> List Event
  | _, [], _, _ => []
  | passed, (_, name) :: rest, memory, workspace =>
      let occurrence := passed.count name + 1
      let ((made, later), left) := ((value name occurrence).run memory).run workspace
      log name occurrence memory workspace ++
        match made with
        | .ok _ => fillLog value log (name :: passed) rest later left
        | .error _ => []

/-- Running operations leads from one workspace to the other and notes the
events.  It is `Reaches` with a record of what was done; an operation that
fails, or that changes no pattern, notes nothing. -/
inductive Runs : Workspace -> List Event -> Workspace -> Prop where
  | refl (workspace : Workspace) : Runs workspace [] workspace
  | trans {first second third : Workspace} {front back : List Event}
      (before : Runs first front second) (later : Runs second back third) :
      Runs first (front ++ back) third
  | parse (workspace : Workspace) (text : String) (bindings : List (Binding (Option String))) :
      Runs workspace
        (noted (parse text bindings) workspace fun made => [.parsed made text bindings])
        (after (parse text bindings) workspace)
  | derive (workspace : Workspace) (source : Place) (text : String) :
      Runs workspace
        (noted (derive source text) workspace fun made => [.derived made source text])
        (after (derive source text) workspace)
  | copy (workspace : Workspace) (source : Place) :
      Runs workspace (noted (copy source) workspace fun made => [.copied made source])
        (after (copy source) workspace)
  | rebind (workspace : Workspace) (place : Place) (name : String) (expression : Option String) :
      Runs workspace
        (noted (rebind place name expression) workspace fun _ => [.bound place name expression])
        (after (rebind place name expression) workspace)
  | compile (workspace : Workspace) (place : Place) :
      Runs workspace [] (after (compile place) workspace)
  | matchWhole (workspace : Workspace) (place : Place) (text : String) :
      Runs workspace [] (after (matchWhole place text) workspace)
  | findAll (workspace : Workspace) (place : Place) (text : String) :
      Runs workspace [] (after (findAll place text) workspace)
  | search {Memory : Type} (workspace : Workspace) (memory : Memory) (place : Place)
      (text : String) (visitor : Matcher.Visit -> Guest Memory Verdict)
      (log : Matcher.Visit -> Memory -> Workspace -> List Event)
      (visits : forall visit memory workspace,
        Runs workspace (log visit memory workspace)
          (afterGuest (visitor visit) memory workspace)) :
      Runs workspace
        (foundLog visitor log
          ((((prepare place workspace).pattern place).findAll text).map (List.map .ok)) memory
          (prepare place workspace))
        (afterGuest (search place text visitor) memory workspace)
  | applyWith {Value : Type} (workspace : Workspace) (place : Place)
      (read : Value -> Outcome String) (bindings : List (Binding Value)) :
      Runs workspace [] (after (applyWith place read bindings) workspace)
  | applyFunction {Memory : Type} (workspace : Workspace) (memory : Memory) (place : Place)
      (value : String -> Nat -> Guest Memory (Except ValueFault String))
      (log : String -> Nat -> Memory -> Workspace -> List Event)
      (calls : forall name occurrence memory workspace,
        Runs workspace (log name occurrence memory workspace)
          (afterGuest (value name occurrence) memory workspace)) :
      Runs workspace
        (fillLog value log [] (workspace.pattern place).template.pieces memory workspace)
        (afterGuest (applyFunction place value) memory workspace)
  | transformOfTemplates (workspace : Workspace) (checked : Bool) (left right : String)
      (bindings : List (Binding (Option String))) (verbose : Bool) :
      Runs workspace
        (noted (transformOfTemplates checked left right bindings verbose) workspace fun transform =>
          [.parsed transform.left left bindings, .derived transform.right transform.left right])
        (after (transformOfTemplates checked left right bindings verbose) workspace)
  | check (workspace : Workspace) (transform : Transform Place) :
      Runs workspace [] (after (check transform) workspace)
  | applyTransform (workspace : Workspace) (transform : Transform Place) (text : String) :
      Runs workspace [] (after (applyTransform transform text) workspace)
  | replace (workspace : Workspace) (transform : Transform Place) (text : String) :
      Runs workspace [] (after (replace transform text) workspace)
  | searchRewrites {Memory : Type} (workspace : Workspace) (memory : Memory)
      (transform : Transform Place) (text : String) (visitor : Rewrite -> Guest Memory Verdict)
      (log : Rewrite -> Memory -> Workspace -> List Event)
      (visits : forall rewrite memory workspace,
        Runs workspace (log rewrite memory workspace)
          (afterGuest (visitor rewrite) memory workspace)) :
      Runs workspace
        (foundLog visitor log
          ((((prepare transform.left workspace).pattern transform.left).findAll text).map
            (List.map ((prepare transform.left workspace).resolve transform).rewrite)) memory
          (prepare transform.left workspace))
        (afterGuest (searchRewrites transform text visitor) memory workspace)

/-! ## What the patterns are made with -/

end Workspace

namespace Pattern

open Workspace

theorem entry_of_parse {text : String} {bindings : List (Binding (Option String))}
    {pattern : Pattern} (done : parse text bindings = .ok pattern) :
    ∃ template, Template.parse text = .ok template ∧
      pattern.entry = .ofTemplate text template (Rules.lastBound bindings) := by
  rcases parse_eq_ok_iff.mp done with ⟨template, read, _, rfl⟩
  exact ⟨template, read, rfl⟩

theorem entry_of_derive {pattern derived : Pattern} {text : String}
    (done : pattern.derive text = .ok derived) :
    ∃ template, Template.parse text = .ok template ∧
      derived.entry = .ofTemplate text template pattern.rules.expression? := by
  rcases derive_eq_ok_iff.mp done with ⟨template, read, _, rfl⟩
  exact ⟨template, read, rfl⟩

theorem entry_compiled (pattern : Pattern) : pattern.compiled.entry = pattern.entry := by
  unfold Pattern.compiled
  split <;> rfl

end Pattern

namespace Workspace

variable {workspace first second third : Workspace}

/-! ## What the operations do to the ledger -/

theorem entries_addPattern (workspace : Workspace) (pattern : Pattern) :
    (workspace.addPattern pattern).entries = workspace.entries ++ [pattern.entry] := by
  simp [entries, addPattern]

theorem length_entries (workspace : Workspace) :
    workspace.entries.length = workspace.patterns.size := by
  simp [entries]

theorem getElem?_entries {place : Place} (inside : place < workspace.patterns.size) :
    workspace.entries[place]? = some (workspace.pattern place).entry := by
  simp [entries, Workspace.pattern, inside]

theorem entryAt_entries (workspace : Workspace) (place : Place) :
    Event.entryAt workspace.entries place = (workspace.pattern place).entry := by
  by_cases inside : place < workspace.patterns.size
  · rw [Event.entryAt, List.getD_eq_getElem?_getD, getElem?_entries inside]
    rfl
  · simp [Event.entryAt, entries, Workspace.pattern, inside]

theorem entries_setPattern (workspace : Workspace) (place : Place) (pattern : Pattern) :
    (workspace.setPattern place pattern).entries = workspace.entries.set place pattern.entry := by
  simp [entries, setPattern, List.map_set]

theorem entries_prepare (place : Place) (workspace : Workspace) :
    (prepare place workspace).entries = workspace.entries := by
  rw [prepare, entries_setPattern, Pattern.entry_compiled]
  by_cases inside : place < workspace.patterns.size
  · refine List.ext_getElem? fun other => ?_
    rw [List.getElem?_set]
    split
    · rename_i same
      rw [if_pos (by rwa [length_entries]), ← same, getElem?_entries inside]
    · rfl
  · rw [List.set_eq_of_length_le]
    rw [length_entries]
    exact Nat.le_of_not_lt inside

/-- The events can happen in the first workspace, and they make its ledger
that of the second.  Nothing but these events has happened to the patterns. -/
def Accounts (first : Workspace) (events : List Event) (second : Workspace) : Prop :=
  Possible first.entries events ∧ second.entries = enterAll first.entries events

theorem accounts_nil (same : second.entries = first.entries) : Accounts first [] second :=
  ⟨trivial, same⟩

theorem Accounts.trans {front back : List Event} (before : Accounts first front second)
    (later : Accounts second back third) : Accounts first (front ++ back) third := by
  obtain ⟨possibleFront, middle⟩ := before
  obtain ⟨possibleBack, ending⟩ := later
  rw [middle] at possibleBack ending
  exact ⟨possible_append_iff.mpr ⟨possibleFront, possibleBack⟩, ending.trans
    (enterAll_append _ _ _).symm⟩

theorem Accounts.ofPrepare {events : List Event} {place : Place}
    (accounts : Accounts (prepare place workspace) events second) :
    Accounts workspace events second := by
  have before : Accounts workspace [] (prepare place workspace) :=
    accounts_nil (entries_prepare place workspace)
  exact before.trans accounts

/-- A new pattern accounts for the event of its making, if its entry is the
one that is made. -/
theorem accounts_addPattern {pattern : Pattern} {event : Event}
    (isNew : event.place = workspace.patterns.size)
    (made : event.made? workspace.entries = some pattern.entry) :
    Accounts workspace [event] (workspace.addPattern pattern) := by
  rw [← length_entries] at isNew
  have isMade : (event.made? workspace.entries).isSome := by rw [made, Option.isSome_some]
  refine ⟨⟨?_, trivial⟩, ?_⟩
  · cases event with
    | bound => cases made
    | parsed | derived | copied => exact ⟨isNew, isMade⟩
  · rw [entries_addPattern]
    exact (enter_of_made? made).symm

theorem made?_parsed {text : String} {bindings : List (Binding (Option String))}
    {pattern : Pattern} (done : Pattern.parse text bindings = .ok pattern) (ledger : List Entry)
    (place : Place) :
    (Event.parsed place text bindings).made? ledger = some pattern.entry := by
  obtain ⟨template, parsed, same⟩ := Pattern.entry_of_parse done
  rw [Event.made?, parsed, same]
  rfl

theorem made?_derived {source : Place} {text : String} {pattern : Pattern}
    (done : (workspace.pattern source).derive text = .ok pattern) (place : Place) :
    (Event.derived place source text).made? workspace.entries = some pattern.entry := by
  obtain ⟨template, parsed, same⟩ := Pattern.entry_of_derive done
  rw [Event.made?, parsed, same, entryAt_entries]
  rfl

/-- What is done after an attempt that fails is not done, and nothing is
noted. -/
theorem accounts_attempt (outcome : Outcome Value) (next : Value -> Action Other)
    {events : Other -> List Event}
    (done : forall value, outcome = .ok value ->
      Accounts workspace (noted (next value) workspace events) (after (next value) workspace)) :
    Accounts workspace (noted ((liftM outcome : Action Value) >>= next) workspace events)
      (after ((liftM outcome : Action Value) >>= next) workspace) := by
  cases outcome with
  | error failure => exact accounts_nil rfl
  | ok value => exact done value rfl

theorem accounts_parse (workspace : Workspace) (text : String)
    (bindings : List (Binding (Option String))) :
    Accounts workspace
      (noted (parse text bindings) workspace fun made => [.parsed made text bindings])
      (after (parse text bindings) workspace) :=
  accounts_attempt (Pattern.parse text bindings) add fun _ done =>
    accounts_addPattern rfl (made?_parsed done _ _)

theorem accounts_derive (workspace : Workspace) (source : Place) (text : String) :
    Accounts workspace
      (noted (derive source text) workspace fun made => [.derived made source text])
      (after (derive source text) workspace) :=
  accounts_attempt ((workspace.pattern source).derive text) add fun _ done =>
    accounts_addPattern rfl (made?_derived done _)

theorem accounts_copy (workspace : Workspace) (source : Place) :
    Accounts workspace (noted (copy source) workspace fun made => [.copied made source])
      (after (copy source) workspace) :=
  accounts_addPattern rfl (congrArg some (entryAt_entries workspace source))

/-- The pattern of which a placeholder could be bound is there, for the blank
one has no placeholders. -/
theorem inside_of_rebind {place : Place} {name : String} {expression : Option String}
    {rebound : Pattern} (done : (workspace.pattern place).rebind name expression = .ok rebound) :
    place < workspace.patterns.size ∧ (workspace.pattern place).rules.has name = true := by
  unfold Pattern.rebind at done
  split at done
  · rename_i known
    refine ⟨Nat.lt_of_not_le fun outside => ?_, known⟩
    rw [Workspace.pattern, Array.getD, dif_neg (Nat.not_lt_of_le outside)] at known
    cases known
  · cases done

theorem accounts_rebind (workspace : Workspace) (place : Place) (name : String)
    (expression : Option String) :
    Accounts workspace
      (noted (rebind place name expression) workspace fun _ => [.bound place name expression])
      (after (rebind place name expression) workspace) := by
  let next (pattern : Pattern) : Action Unit :=
    modify fun workspace => workspace.setPattern place pattern
  have attempted : Accounts workspace
      (noted (liftM ((workspace.pattern place).rebind name expression) >>= next) workspace
        fun _ => [.bound place name expression])
      (after (liftM ((workspace.pattern place).rebind name expression) >>= next) workspace) := by
    refine accounts_attempt _ next fun pattern done => ?_
    obtain ⟨inside, known⟩ := inside_of_rebind done
    have held := getElem?_entries inside
    have changed : pattern.entry =
        (workspace.pattern place).entry.rebindAll [⟨name, expression⟩] := by
      rw [Pattern.rebind_eq_ok done]
      rfl
    have left : (workspace.setPattern place pattern).entries =
        enterAll workspace.entries [.bound place name expression] := by
      rw [entries_setPattern, changed, enterAll, List.foldl_cons, List.foldl_nil, Event.enter,
        List.modify_eq_set_getElem?, held]
      rfl
    exact ⟨⟨⟨_, held, known⟩, trivial⟩, left⟩
  have same : (rebind place name expression).run.run workspace =
      (liftM ((workspace.pattern place).rebind name expression) >>= next : Action Unit).run.run
        workspace := rfl
  rw [noted, after, same]
  exact attempted

/-- Both patterns of a transform between templates, and where they come
from. -/
theorem accounts_transformOfTemplates (workspace : Workspace) (checked : Bool)
    (left right : String) (bindings : List (Binding (Option String))) (verbose : Bool) :
    Accounts workspace
      (noted (transformOfTemplates checked left right bindings verbose) workspace fun transform =>
        [.parsed transform.left left bindings, .derived transform.right transform.left right])
      (after (transformOfTemplates checked left right bindings verbose) workspace) := by
  refine accounts_attempt (Transform.ofTemplates checked left right bindings verbose) addTransform
    fun transform done => ?_
  obtain ⟨parsed, derived⟩ := patterns_of_ofTemplates done
  let middle := workspace.addPattern transform.left
  have leftHeld : middle.pattern workspace.patterns.size = transform.left := by
    simp [middle, Workspace.pattern, addPattern]
  have sizes : middle.patterns.size = workspace.patterns.size + 1 := by
    simp [middle, addPattern]
  rw [← leftHeld] at derived
  have first : Accounts workspace [.parsed workspace.patterns.size left bindings] middle :=
    accounts_addPattern rfl (made?_parsed parsed _ _)
  have second : Accounts middle [.derived middle.patterns.size workspace.patterns.size right]
      (middle.addPattern transform.right) :=
    accounts_addPattern rfl (made?_derived derived _)
  exact first.trans second

theorem visitLog_cons (visitor : Item -> Guest Memory Verdict)
    (log : Item -> Memory -> Workspace -> List Event) (item : Item) (rest : List (Outcome Item))
    (memory : Memory) (workspace : Workspace) :
    visitLog visitor log (.ok item :: rest) memory workspace =
      log item memory workspace ++
        match (((visitor item).run memory).run workspace).1.1 with
        | .goOn => visitLog visitor log rest (((visitor item).run memory).run workspace).1.2
            (afterGuest (visitor item) memory workspace)
        | _ => [] :=
  rfl

/-- What accounts for every visit accounts for visiting, up to the visit that
is the last. -/
theorem accounts_visitAll {visitor : Item -> Guest Memory Verdict}
    {log : Item -> Memory -> Workspace -> List Event}
    (visits : forall item memory workspace, Accounts workspace (log item memory workspace)
      (afterGuest (visitor item) memory workspace))
    (items : List (Outcome Item)) (memory : Memory) (workspace : Workspace) :
    Accounts workspace (visitLog visitor log items memory workspace)
      (afterGuest (visitAll visitor items) memory workspace) := by
  induction items generalizing memory workspace with
  | nil => exact accounts_nil rfl
  | cons head rest inductiveHypothesis =>
      cases head with
      | error failure => exact accounts_nil rfl
      | ok item =>
          rw [visitAll, showThen, afterGuest_bind, visitLog_cons]
          refine (visits item memory workspace).trans ?_
          cases (((visitor item).run memory).run workspace).1.1 with
          | stop => exact accounts_nil rfl
          | giveUp failure => exact accounts_nil rfl
          | goOn => exact inductiveHypothesis _ _

theorem accounts_visitFound {visitor : Item -> Guest Memory Verdict}
    {log : Item -> Memory -> Workspace -> List Event}
    (visits : forall item memory workspace, Accounts workspace (log item memory workspace)
      (afterGuest (visitor item) memory workspace))
    (found : Outcome (List (Outcome Item))) (memory : Memory) (workspace : Workspace) :
    Accounts workspace (foundLog visitor log found memory workspace)
      (afterGuest (visitFound visitor found) memory workspace) := by
  cases found with
  | error failure => exact accounts_nil rfl
  | ok items => exact accounts_visitAll visits items memory workspace

/-- What accounts for making each value accounts for filling, up to the value
that could not be made. -/
theorem accounts_fillPieces {value : String -> Nat -> Guest Memory (Except ValueFault String)}
    {log : String -> Nat -> Memory -> Workspace -> List Event}
    (calls : forall name occurrence memory workspace,
      Accounts workspace (log name occurrence memory workspace)
        (afterGuest (value name occurrence) memory workspace))
    (last : String) (pieces : List (String × String)) (passed : List String) (memory : Memory)
    (workspace : Workspace) :
    Accounts workspace (fillLog value log passed pieces memory workspace)
      (afterGuest (Template.fillPieces (Pattern.filler value) last passed pieces).run memory
        workspace) := by
  induction pieces generalizing passed memory workspace with
  | nil => exact accounts_nil rfl
  | cons piece rest inductiveHypothesis =>
      obtain ⟨literal, name⟩ := piece
      obtain ⟨made, later, left, run⟩ : ∃ made later left,
          ((value name (passed.count name + 1)).run memory).run workspace =
            ((made, later), left) := ⟨_, _, _, rfl⟩
      have called := calls name (passed.count name + 1) memory workspace
      rw [afterGuest, run] at called
      rw [afterGuest_fillPieces_cons run, fillLog]
      simp only [run]
      cases made with
      | error fault =>
          rw [List.append_nil]
          exact called
      | ok text => exact called.trans (inductiveHypothesis (name :: passed) later left)

/-! ## Runs -/

/-- Every run accounts for what it has left.  The cases are one for each
operation. -/
theorem Runs.accounts {events : List Event} (runs : Runs first events second) :
    Accounts first events second := by
  induction runs with
  | refl => exact accounts_nil rfl
  | trans _ _ before later => exact before.trans later
  | parse workspace text bindings => exact accounts_parse workspace text bindings
  | derive workspace source text => exact accounts_derive workspace source text
  | copy workspace source => exact accounts_copy workspace source
  | rebind workspace place name expression =>
      exact accounts_rebind workspace place name expression
  | compile workspace place =>
      rw [after, run_compile]
      exact accounts_nil (entries_prepare place workspace)
  | matchWhole workspace place text =>
      rw [after, run_matchWhole]
      exact accounts_nil (entries_prepare place workspace)
  | findAll workspace place text =>
      rw [after, run_findAll]
      exact accounts_nil (entries_prepare place workspace)
  | search workspace memory place text visitor log visits each =>
      rw [afterGuest, run_search]
      exact .ofPrepare (accounts_visitFound each _ memory _)
  | applyWith workspace place read bindings =>
      rw [after, run_applyWith]
      exact accounts_nil rfl
  | applyFunction workspace memory place value log calls each =>
      rw [afterGuest_applyFunction]
      exact accounts_fillPieces each _ _ [] memory workspace
  | transformOfTemplates workspace checked left right bindings verbose =>
      exact accounts_transformOfTemplates workspace checked left right bindings verbose
  | check workspace transform =>
      rw [after_check]
      exact accounts_nil rfl
  | applyTransform workspace transform text =>
      obtain ⟨report, same⟩ := after_rewriteBy Transform.apply transform text
      rw [Workspace.applyTransform, same]
      exact accounts_nil (entries_prepare transform.left workspace)
  | replace workspace transform text =>
      obtain ⟨report, same⟩ := after_rewriteBy Transform.replace transform text
      rw [Workspace.replace, same]
      exact accounts_nil (entries_prepare transform.left workspace)
  | searchRewrites workspace memory transform text visitor log visits each =>
      rw [afterGuest, run_searchRewrites]
      exact .ofPrepare (accounts_visitFound each _ memory _)

theorem sides_of_check {transform checked : Transform Place} {left : Workspace}
    (done : (check transform).run.run workspace = (.ok checked, left)) :
    checked.left = transform.left ∧ checked.right = transform.right := by
  rw [run_check] at done
  cases outcome : (workspace.resolve transform).check with
  | error failure =>
      rw [outcome] at done
      cases done
  | ok resolved =>
      rw [outcome] at done
      cases done
      exact ⟨rfl, rfl⟩

theorem rules_of_rebind {place : Place} {name : String} {expression : Option String}
    {later : Workspace}
    (done : (rebind place name expression).run.run workspace = (.ok (), later)) :
    (later.pattern place).rules = (workspace.pattern place).rules.rebind name expression := by
  rw [run_rebind] at done
  cases outcome : (workspace.pattern place).rebind name expression with
  | error failure =>
      rw [outcome] at done
      cases done
  | ok rebound =>
      rw [outcome] at done
      cases done
      rw [pattern_setPattern_self (inside_of_rebind outcome).1, Pattern.rebind_eq_ok outcome]

/-- What a run has noted could happen when it was noted, and it tells what has
become of the patterns.  Each pattern that was there before has kept its text
and its template, and its rules are changed by the bindings of its own
placeholders and by nothing else.  Each pattern that has been made since has
the next place; it has kept the text and the template with which it was made,
and its rules are those with which it was made, changed by the bindings of its
own placeholders that came later.  There are no others.  A transform and its
reverse show the same two patterns, so what is bound through one of them is
seen through both; and a transform that is checked keeps its patterns. -/
theorem ownership_of_runs {events : List Event} (runs : Runs first events second) :
    (forall place, place < first.patterns.size ->
      (second.pattern place).entry =
        (first.pattern place).entry.rebindAll (bindingsOf place events)) ∧
    (forall front event back, events = front ++ event :: back ->
      event.Fits (enterAll first.entries front) ∧
      forall made, event.made? (enterAll first.entries front) = some made ->
        (second.pattern event.place).entry = made.rebindAll (bindingsOf event.place back)) ∧
    second.entries = enterAll first.entries events ∧
    forall transform : Transform Place,
      second.resolve transform.reverse = (second.resolve transform).reverse ∧
      (forall name expression later,
        (rebind transform.left name expression).run.run second = (.ok (), later) ->
        (later.resolve transform).left.rules =
            (second.resolve transform).left.rules.rebind name expression ∧
          (later.resolve transform.reverse).right = (later.resolve transform).left ∧
          later.pattern transform.left = (later.resolve transform).left) ∧
      forall checked later, (check transform).run.run second = (.ok checked, later) ->
        checked.left = transform.left ∧ checked.right = transform.right := by
  obtain ⟨possible, ending⟩ := runs.accounts
  have atPlace {place : Place} {entry : Entry}
      (held : (enterAll first.entries events)[place]? = some entry) :
      (second.pattern place).entry = entry := by
    rw [← entryAt_entries, ending, Event.entryAt, List.getD_eq_getElem?_getD, held]
    rfl
  refine ⟨fun place inside => ?_, fun front event back parts => ⟨?_, fun made begun => ?_⟩, ending,
    fun transform => ⟨rfl, fun name expression later done => ⟨?_, rfl, rfl⟩,
      fun checked later done => ?_⟩⟩
  · exact atPlace (getElem?_enterAll (getElem?_entries inside) events)
  · rw [parts] at possible
    exact (possible_append_iff.mp possible).2.1
  · rw [parts] at possible
    refine atPlace ?_
    rw [parts]
    exact (getElem?_enterAll_made possible begun).2
  · exact rules_of_rebind done
  · exact sides_of_check done

/-- A workspace with a pattern that was rebound while it was searched, a
derived pattern and a copy of it; a placeholder of the copy was bound, and
another one, which it does not have, was not. -/
def ownedExample : Workspace :=
  after (rebind 2 "y" none) <| after (rebind 2 "x" (some "c")) <|
    afterGuest (search 0 "aa" rebindingVisitor) () <| after (copy 0) <|
      after (derive 0 "${x}") <| after (parse "${x}" [⟨"x", some "a"⟩]) .empty

theorem ownership_of_runs_ownedExample :
    Runs .empty [.parsed 0 "${x}" [⟨"x", some "a"⟩], .derived 1 0 "${x}", .copied 2 0,
        .bound 0 "x" (some "b"), .bound 0 "x" (some "b"), .bound 2 "x" (some "c")] ownedExample ∧
      (ownedExample.pattern 0).rules = ⟨[("x", some "b")]⟩ ∧
      (ownedExample.pattern 1).rules = ⟨[("x", some "a")]⟩ ∧
      (ownedExample.pattern 2).rules = ⟨[("x", some "c")]⟩ := by
  have runs : Runs .empty [.parsed 0 "${x}" [⟨"x", some "a"⟩], .derived 1 0 "${x}", .copied 2 0,
      .bound 0 "x" (some "b"), .bound 0 "x" (some "b"), .bound 2 "x" (some "c")] ownedExample := by
    have searched (workspace : Workspace) := Runs.search workspace () 0 "aa" rebindingVisitor
      (fun _ _ workspace => noted (rebind 0 "x" (some "b")) workspace
        fun _ => [.bound 0 "x" (some "b")])
      fun _ _ workspace => .rebind workspace 0 "x" (some "b")
    have whole := (((((Runs.parse .empty "${x}" [⟨"x", some "a"⟩]).trans
      (.derive _ 0 "${x}")).trans (.copy _ 0)).trans (searched _)).trans
        (.rebind _ 2 "x" (some "c"))).trans (.rebind _ 2 "y" none)
    exact cast (congrArg (Runs .empty · ownedExample) (by decide +kernel)) whole
  obtain ⟨_, made, _⟩ := ownership_of_runs runs
  refine ⟨runs, ?_, ?_, ?_⟩
  · exact congrArg Entry.rules ((made [] _ _ rfl).2 _ rfl)
  · exact congrArg Entry.rules ((made [_] _ _ rfl).2 _ rfl)
  · exact congrArg Entry.rules ((made [_, _] _ _ rfl).2 _ rfl)

end Workspace
end Stencil

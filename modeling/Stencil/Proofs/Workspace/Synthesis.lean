import Stencil.Proofs.Pattern.Filling
import Stencil.Proofs.Workspace.Ownership

namespace Stencil

/-!
Filling a template on demand.  A value is asked for at each occurrence of a
placeholder, by its name and by how often that name has occurred, and the
first that cannot be had ends the filling.  `Asked` says what it means to ask
in this way; whoever is asked may remember what has been asked for, and may do
anything to the workspace in between.

With bindings at hand the same text comes from queues of values, and nobody is
asked.  The two ways are counted differently: an occurrence has a number, a
queue is used up.  They agree if each answer is the value that the queue of
the name has at this number.

The main statement is `Workspace.applyFunction_asks`.
-/

namespace Template

variable {passed names : List String} {name : String} {number : Nat}

/-- The names, each with its number: how often it has occurred by then, those
passed before included. -/
def numbered (passed names : List String) : List (String × Nat) :=
  names.mapIdx fun index name => (name, (passed ++ names.take (index + 1)).count name)

theorem numbered_cons (passed : List String) (name : String) (rest : List String) :
    numbered passed (name :: rest) =
      (name, passed.count name + 1) :: numbered (name :: passed) rest := by
  rw [numbered, List.mapIdx_cons, numbered]
  congr 1
  · rw [List.take_succ_cons, List.take_zero, List.count_append, List.count_singleton_self]
  · congr 1
    funext index other
    rw [List.take_succ_cons, List.count_append, List.count_append, List.count_cons, List.count_cons]
    congr 1
    omega

theorem lt_of_mem_numbered (member : (name, number) ∈ numbered passed names) :
    name ∈ names ∧ passed.count name < number := by
  induction names generalizing passed with
  | nil => cases member
  | cons first rest inductiveHypothesis =>
      rw [numbered_cons] at member
      rcases List.mem_cons.mp member with same | later
      · cases same
        exact ⟨List.mem_cons_self, Nat.lt_succ_self _⟩
      · rcases inductiveHypothesis later with ⟨among, counted⟩
        exact ⟨List.mem_cons_of_mem _ among, Nat.lt_of_le_of_lt List.count_le_count_cons counted⟩

/-- No name gets a number twice, so each call is told from the others by what
is asked. -/
theorem nodup_numbered (passed names : List String) : (numbered passed names).Nodup := by
  induction names generalizing passed with
  | nil => exact List.nodup_nil
  | cons name rest inductiveHypothesis =>
      rw [numbered_cons]
      refine List.nodup_cons.mpr ⟨fun again => ?_, inductiveHypothesis (name :: passed)⟩
      have counted := (lt_of_mem_numbered again).2
      rw [List.count_cons_self] at counted
      exact Nat.lt_irrefl _ counted

end Template

namespace Workspace

open Pattern (filler)
open Template

variable {Memory Value Other : Type} {memory later : Memory} {workspace left : Workspace}
  {value : String -> Nat -> Guest Memory (Except ValueFault String)}
  {calls made : List (String × Nat)} {texts : Outcome (List String)}

/-- Of the calls, these are made, one after the other, each where the one
before has left things; the first that is refused ends the asking.  What is
made of the answers does not come in here. -/
inductive Asked (value : String -> Nat -> Guest Memory (Except ValueFault String)) :
    (memory : Memory) -> (workspace : Workspace) -> (calls made : List (String × Nat)) ->
      (Outcome (List String) × Memory) × Workspace -> Prop where
  | finished (memory : Memory) (workspace : Workspace) :
      Asked value memory workspace [] [] ((.ok [], memory), workspace)
  | answered {memory middle later : Memory} {workspace between left : Workspace} {name text : String}
      {number : Nat} {calls made : List (String × Nat)} {texts : Outcome (List String)}
      (called : ((value name number).run memory).run workspace = ((.ok text, middle), between))
      (others : Asked value middle between calls made ((texts, later), left)) :
      Asked value memory workspace ((name, number) :: calls) ((name, number) :: made)
        ((texts.map (text :: ·), later), left)
  | refused {memory later : Memory} {workspace left : Workspace} {name : String} {number : Nat}
      {fault : ValueFault} {calls : List (String × Nat)}
      (called : ((value name number).run memory).run workspace = ((.error fault, later), left)) :
      Asked value memory workspace ((name, number) :: calls) [(name, number)]
        ((.error (.synthesis name fault), later), left)

/-- Either all calls are made and answered, or those up to one that is
refused. -/
inductive AskedThrough (calls made : List (String × Nat)) : Outcome (List String) -> Prop where
  | all {texts : List String} (whole : made = calls) (answers : texts.length = calls.length) :
      AskedThrough calls made (.ok texts)
  | upTo {front back : List (String × Nat)} {name : String} {number : Nat} {fault : ValueFault}
      (whole : calls = front ++ (name, number) :: back) (part : made = front ++ [(name, number)]) :
      AskedThrough calls made (.error (.synthesis name fault))

/-- Notes every call that it passes on, beside the memory of whoever makes the
values. -/
def recording (value : String -> Nat -> Guest Memory (Except ValueFault String)) (name : String)
    (number : Nat) : Guest (List (String × Nat) × Memory) (Except ValueFault String) := do
  let (log, memory) ← get
  let (made, later) ← (value name number).run memory
  set (log ++ [(name, number)], later)
  pure made

/-! ## Asking -/

theorem exists_asked (value : String -> Nat -> Guest Memory (Except ValueFault String))
    (calls : List (String × Nat)) (memory : Memory) (workspace : Workspace) :
    ∃ made texts later left, Asked value memory workspace calls made ((texts, later), left) := by
  induction calls generalizing memory workspace with
  | nil => exact ⟨_, _, _, _, .finished memory workspace⟩
  | cons call rest inductiveHypothesis =>
      rcases call with ⟨name, number⟩
      rcases called : ((value name number).run memory).run workspace with ⟨⟨answer, middle⟩, between⟩
      cases answer with
      | error fault => exact ⟨_, _, _, _, .refused called⟩
      | ok text =>
          rcases inductiveHypothesis middle between with ⟨made, texts, later, left, others⟩
          exact ⟨_, _, _, _, .answered called others⟩

theorem Asked.through (asked : Asked value memory workspace calls made ((texts, later), left)) :
    AskedThrough calls made texts := by
  generalize ended : ((texts, later), left) = ending at asked
  induction asked generalizing texts later left with
  | finished =>
      cases ended
      exact .all rfl rfl
  | @refused _ _ _ _ name number _ calls _ =>
      cases ended
      have whole : (name, number) :: calls = [] ++ (name, number) :: calls := rfl
      exact .upTo whole rfl
  | @answered _ _ _ _ _ _ name _ number _ _ _ _ _ inductiveHypothesis =>
      cases ended
      cases inductiveHypothesis rfl with
      | all whole answers =>
          exact .all (congrArg ((name, number) :: ·) whole) (congrArg (· + 1) answers)
      | upTo whole part =>
          rw [whole, part, ← List.cons_append, ← List.cons_append]
          exact .upTo rfl rfl

theorem run_recording (value : String -> Nat -> Guest Memory (Except ValueFault String))
    (log : List (String × Nat)) (name : String) (number : Nat) (memory : Memory)
    (workspace : Workspace) :
    ((recording value name number).run (log, memory)).run workspace =
      let ((made, later), left) := ((value name number).run memory).run workspace
      ((made, (log ++ [(name, number)], later)), left) :=
  rfl

/-- Noting the calls changes nothing, and those that are noted are those that
are made. -/
theorem Asked.recorded (log : List (String × Nat))
    (asked : Asked value memory workspace calls made ((texts, later), left)) :
    Asked (recording value) (log, memory) workspace calls made ((texts, (log ++ made, later)), left) := by
  generalize ended : ((texts, later), left) = ending at asked
  induction asked generalizing texts later left log with
  | finished =>
      cases ended
      rw [List.append_nil]
      exact .finished _ _
  | refused called =>
      cases ended
      apply Asked.refused
      rw [run_recording, called]
  | @answered _ _ _ _ _ _ name text number _ _ _ called others inductiveHypothesis =>
      cases ended
      have further := inductiveHypothesis (log ++ [(name, number)]) rfl
      rw [List.append_assoc] at further
      refine .answered ?_ further
      rw [run_recording, called]

/-! ## Filling -/

/-- The answers are filled in, each after its literal.  If one is refused
there is no text. -/
theorem run_fillPieces {last : String} {pieces : List (String × String)} {passed : List String}
    (asked : Asked value memory workspace (numbered passed (pieces.map Prod.snd)) made
      ((texts, later), left)) :
    ((fillPieces (filler value) last passed pieces).run.run memory).run workspace =
      ((texts.map fun texts => String.ofList
        (Fragment.written (fragments ⟨pieces, last⟩) (texts.map String.toList)), later), left) := by
  induction pieces generalizing passed made memory workspace texts with
  | nil =>
      cases asked with
      | finished =>
          rw [Except.map, List.map_nil, ofList_written_nil]
          rfl
  | cons piece rest inductiveHypothesis =>
      rcases piece with ⟨literal, name⟩
      rw [List.map_cons, numbered_cons] at asked
      rw [fillPieces, run_bind_guest]
      cases asked with
      | refused called =>
          rw [run_filler called]
          rfl
      | @answered _ _ _ _ _ _ _ text _ _ _ others called further =>
          rw [run_filler called]
          dsimp only [Except.mapError]
          rw [run_bind_guest, inductiveHypothesis further]
          cases others with
          | error failure => rfl
          | ok texts =>
              simp only [Except.map, ofList_written_cons]
              rfl

/-- A pattern fills the answers in, and leaves what the last call has left. -/
theorem run_applyFunction {pattern : Pattern}
    (asked : Asked value memory workspace (numbered [] pattern.template.names) made
      ((texts, later), left)) :
    ((pattern.applyFunction value).run.run memory).run workspace =
      ((texts.map fun texts => String.ofList
        (Fragment.written pattern.fragments (texts.map String.toList)), later), left) := by
  rw [Pattern.applyFunction_eq_fillWith]
  exact run_fillPieces asked

/-- If whoever is asked always says what the bindings give, the filling ends
as it does with these. -/
theorem run_fillPieces_valueFor {bindings : List (Binding String)} {last : String}
    {pieces : List (String × String)}
    (agrees : forall name number memory workspace, name ∈ pieces.map Prod.snd ->
      (((filler value name (number + 1)).run.run memory).run workspace).1.1 =
        Pattern.valueFor bindings name (number + 1))
    (passed : List String) (memory : Memory) (workspace : Workspace) :
    (((fillPieces (filler value) last passed pieces).run.run memory).run workspace).1.1 =
      fillPieces (Pattern.valueFor bindings) last passed pieces := by
  induction pieces generalizing passed memory workspace with
  | nil => rfl
  | cons piece rest inductiveHypothesis =>
      rcases piece with ⟨literal, name⟩
      have first := agrees name (passed.count name) memory workspace List.mem_cons_self
      have others := inductiveHypothesis fun other number memory workspace member =>
        agrees other number memory workspace (List.mem_cons_of_mem _ member)
      rw [fillPieces, fillPieces, run_bind_guest, ← first]
      rcases ((filler value name (passed.count name + 1)).run.run memory).run workspace with
        ⟨⟨made, later⟩, left⟩
      cases made with
      | error failure => rfl
      | ok text =>
          dsimp only
          rw [run_bind_guest, ← others (name :: passed) later left]
          rcases ((fillPieces (filler value) last (name :: passed) rest).run.run later).run left with
            ⟨⟨remainder, _⟩, _⟩
          cases remainder <;> rfl

/-- Whatever template is filled on demand, its occurrences of placeholders are asked for in order, each
once and with its number, until one is refused; nothing is asked for after that.  What a recorder of the
calls notes are these, and it changes nothing.  If no call is refused, the answers are written between
the literals; otherwise the filling fails for the one that was, with its reason.

If every placeholder is bound, and each answer is the value bound to the name at the number, or the last
one if there are fewer, then filling with the bindings gives the same text. -/
theorem applyFunction_asks (pattern : Pattern)
    (value : String -> Nat -> Guest Memory (Except ValueFault String)) (memory : Memory)
    (workspace : Workspace) :
    (∃ made texts later left,
      Asked value memory workspace (numbered [] pattern.template.names) made ((texts, later), left) ∧
      AskedThrough (numbered [] pattern.template.names) made texts ∧
      (numbered [] pattern.template.names).Nodup ∧
      let outcome := texts.map fun texts => String.ofList
        (Fragment.written pattern.fragments (texts.map String.toList))
      ((pattern.applyFunction value).run.run memory).run workspace = ((outcome, later), left) ∧
      (forall log, ((pattern.applyFunction (recording value)).run.run (log, memory)).run workspace =
        ((outcome, (log ++ made, later)), left)) ∧
      forall place, workspace.pattern place = pattern ->
        ((applyFunction place value).run memory).run workspace = ((outcome, later), left)) ∧
    forall bindings : List (Binding String),
      (forall name, name ∈ pattern.template.names -> name ∈ Binding.names bindings) ->
      (forall name number text memory workspace, 0 < number ->
        (Binding.valuesOf bindings name)[
          min number (Binding.valuesOf bindings name).length - 1]? = some text ->
        (((value name number).run memory).run workspace).1.1 = .ok text) ->
      ∃ written, pattern.apply bindings = .ok written ∧
        (((pattern.applyFunction value).run.run memory).run workspace).1.1 = .ok written := by
  constructor
  · rcases exists_asked value (numbered [] pattern.template.names) memory workspace with
      ⟨made, texts, later, left, asked⟩
    refine ⟨made, texts, later, left, asked, asked.through, nodup_numbered [] _,
      run_applyFunction asked, fun log => run_applyFunction (asked.recorded log), ?_⟩
    rintro place rfl
    exact run_applyFunction asked
  · intro bindings bound agrees
    rcases Pattern.apply_takes_or pattern bindings with ⟨values, _, applied⟩ | ⟨name, unknown, _⟩
    · refine ⟨_, applied, ?_⟩
      rw [← applied, Pattern.apply_eq_fillWith, Pattern.applyFunction_eq_fillWith]
      apply run_fillPieces_valueFor
      intro name number memory workspace member
      rcases Binding.exists_valueAt? (bound name member) (number + 1) with ⟨text, found⟩
      have answer := agrees name (number + 1) text memory workspace (Nat.succ_pos number) found
      rcases called : ((value name (number + 1)).run memory).run workspace with ⟨⟨made, later⟩, left⟩
      rw [called] at answer
      cases answer
      rw [run_filler called, Pattern.valueFor, found]
      rfl
    · have known := Binding.firstUnknown?_eq_none_iff.mpr bound
      cases unknown.symm.trans known

def repeatingExample : Pattern :=
  .ofTemplate "${a}-${b}${a}${a}" ⟨[("", "a"), ("-", "b"), ("", "a"), ("", "a")], ""⟩ fun _ => none

/-- Counts the questions, and to the third of them has an answer that is no
text. -/
def tiring (name : String) (number : Nat) : Guest Nat (Except ValueFault String) := do
  modify (· + 1)
  let questions ← get
  pure (if questions = 3 then .error (.notText .null) else .ok (name ++ toString number))

def queuesExample : List (Binding String) :=
  [⟨"a", "1"⟩, ⟨"b", "2"⟩, ⟨"a", "3"⟩]

/-- The value that the queue of the name has at the number.  It asks for
nothing and remembers nothing. -/
def queued (bindings : List (Binding String)) (name : String) (number : Nat) :
    Guest Unit (Except ValueFault String) :=
  pure (.ok ((Binding.valueAt? bindings name number).getD ""))

theorem applyFunction_asks_repeatingExample :
    (∃ texts later left,
      Asked tiring 0 .empty (numbered [] repeatingExample.template.names)
        [("a", 1), ("b", 1), ("a", 2)] ((texts, later), left) ∧
      AskedThrough (numbered [] repeatingExample.template.names) [("a", 1), ("b", 1), ("a", 2)] texts ∧
      (((repeatingExample.applyFunction tiring).run.run 0).run .empty).1.1 =
        .error (.synthesis "a" (.notText .null))) ∧
    repeatingExample.apply queuesExample = .ok "1-233" ∧
    (((repeatingExample.applyFunction (queued queuesExample)).run.run ()).run .empty).1.1 =
      .ok "1-233" := by
  constructor
  · rcases applyFunction_asks repeatingExample tiring 0 .empty with
      ⟨⟨made, texts, later, left, asked, through, _, _, recorded, _⟩, _⟩
    have noted : (((repeatingExample.applyFunction (recording tiring)).run.run ([], 0)).run
        .empty).1.2.1 = [("a", 1), ("b", 1), ("a", 2)] := rfl
    rw [recorded []] at noted
    cases noted
    exact ⟨texts, later, left, asked, through, rfl⟩
  · have bound : forall name, name ∈ repeatingExample.template.names ->
        name ∈ Binding.names queuesExample := by
      decide +kernel
    rcases (applyFunction_asks repeatingExample (queued queuesExample) () .empty).2 queuesExample bound
      (fun name number text memory workspace _ found => congrArg (fun found : Option String =>
        (Except.ok (found.getD "") : Except ValueFault String)) found) with ⟨written, applied, filled⟩
    have text : (repeatingExample.apply queuesExample).toOption = some "1-233" := by
      decide +kernel
    rw [Except.toOption_eq_some_iff] at text
    cases applied.symm.trans text
    exact ⟨text, filled⟩

end Workspace
end Stencil

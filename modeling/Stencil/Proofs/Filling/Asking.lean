import Stencil.Filling.Script
import Stencil.Proofs.Pattern.Filling

namespace Stencil
namespace Filling

/-!
Filling in a template by asking.  There is one question for each occurrence of
a placeholder whose name has no value yet, in the order of the template and
numbered in this order.  `Asked` says what it means that questions are asked
one after the other, of somebody who may remember anything, until one is
refused.

The answers are then bound to their names behind the values there were, and
the template is filled from all these bindings.  So nothing says where an
answer was asked for: it has to be shown that it comes back there
(`Answered`).  It does, since a name has either had values from the start, and
then none was asked for, or else no other values than its answers, and then
they are as many as its occurrences.

The main statement is `Filling.fill_asks`.
-/

variable {World : Type} {ask : String -> StateM World (Outcome String)} {world later : World}
  {supplied : List (Binding String)} {names made answers : List String}
  {name : String} {outcome : Outcome (List String)}

/-- The names that no value has been supplied for, each as often as it occurs
and in the order of the template. -/
def unsupplied (supplied : List (Binding String)) (names : List String) : List String :=
  names.filter fun name => name ∉ Binding.names supplied

def questions (number : Nat) (names : List String) : List String :=
  names.mapIdx fun index name => question (number + index) name

/-- Of the questions, these are asked, one after the other, each where the one
before has left things; the first that is refused ends the asking.  There are
as many answers as questions if none is. -/
inductive Asked (ask : String -> StateM World (Outcome String)) :
    (world : World) -> (questions made : List String) -> Outcome (List String) × World -> Prop where
  | finished (world : World) : Asked ask world [] [] (.ok [], world)
  | answered {world between later : World} {question answer : String} {questions made : List String}
      {outcome : Outcome (List String)} (asked : (ask question).run world = (.ok answer, between))
      (others : Asked ask between questions made (outcome, later)) :
      Asked ask world (question :: questions) (question :: made)
        (outcome.map (answer :: ·), later)
  | refused {world later : World} {question : String} {questions : List String} {failure : Failure}
      (asked : (ask question).run world = (.error failure, later)) :
      Asked ask world (question :: questions) [question] (.error failure, later)

/-- The occurrences of the names have these values.  If values have been
supplied for a name, its k-th occurrence has the k-th of them, or the last one
if there are fewer; otherwise an occurrence has the answer to its own
question.  All values are as they are filled in for the name. -/
structure Answered (supplied : List (Binding String)) (names answers values : List String) : Prop where
  length : values.length = names.length
  bound : forall front name back, names = front ++ name :: back -> name ∈ Binding.names supplied ->
    values[front.length]? = (Binding.valuesOf supplied name)[
      min (front.count name + 1) (Binding.valuesOf supplied name).length - 1]?.map (formatValue name)
  free : forall front name back, names = front ++ name :: back -> name ∉ Binding.names supplied ->
    values[front.length]? = answers[(unsupplied supplied front).length]?.map (formatValue name)

/-- Either all questions are asked and the answers are filled in, or those are
asked up to one that is refused, and then the filling fails for the same
reason. -/
inductive Fills (supplied : List (Binding String)) (template : Template) (questions made : List String) :
    Outcome (List String) -> Outcome String -> Prop where
  | filled {answers values : List String} (all : made = questions)
      (each : answers.length = questions.length)
      (answered : Answered supplied template.names answers values) :
      Fills supplied template questions made (.ok answers) (.ok (String.ofList
        (Fragment.written template.fragments (values.map String.toList))))
  | refused {front back : List String} {question : String} {failure : Failure}
      (whole : questions = front ++ question :: back) (part : made = front ++ [question]) :
      Fills supplied template questions made (.error failure) (.error failure)

/-- Notes every question that it passes on.  The notes are kept beside the
world of whoever answers, so that they cannot influence the answers. -/
def recording (ask : String -> StateM World (Outcome String)) (question : String) :
    StateM (List String × World) (Outcome String) := do
  let (log, world) ← get
  let (answer, later) := (ask question).run world
  set (log ++ [question], later)
  pure answer

/-! ## Asking -/

theorem questions_cons (number : Nat) (name : String) (rest : List String) :
    questions number (name :: rest) = question number name :: questions (number + 1) rest := by
  rw [questions, List.mapIdx_cons, questions]
  congr 2
  funext index other
  rw [Nat.add_right_comm, Nat.add_assoc]

theorem length_questions (number : Nat) (names : List String) :
    (questions number names).length = names.length :=
  List.length_mapIdx

theorem exists_asked (ask : String -> StateM World (Outcome String)) (questions : List String)
    (world : World) : ∃ made outcome later, Asked ask world questions made (outcome, later) := by
  induction questions generalizing world with
  | nil => exact ⟨_, _, _, .finished world⟩
  | cons question rest inductiveHypothesis =>
      rcases asked : (ask question).run world with ⟨answer, between⟩
      cases answer with
      | error failure => exact ⟨_, _, _, .refused asked⟩
      | ok answer =>
          rcases inductiveHypothesis between with ⟨made, outcome, later, others⟩
          exact ⟨_, _, _, .answered asked others⟩

/-- Either all questions are answered, or the last one that is asked is
refused. -/
theorem Asked.through {questions : List String}
    (asked : Asked ask world questions made (outcome, later)) :
    (∃ answers, outcome = .ok answers ∧ made = questions ∧ answers.length = questions.length) ∨
    ∃ failure front question back, outcome = .error failure ∧
      questions = front ++ question :: back ∧ made = front ++ [question] := by
  generalize ended : (outcome, later) = ending at asked
  induction asked generalizing outcome later with
  | finished =>
      cases ended
      exact .inl ⟨[], rfl, rfl, rfl⟩
  | @refused _ _ question questions failure _ =>
      cases ended
      exact .inr ⟨failure, [], question, questions, rfl, rfl, rfl⟩
  | @answered _ _ _ question answer _ _ _ _ _ inductiveHypothesis =>
      cases ended
      rcases inductiveHypothesis rfl with
        ⟨answers, rfl, all, each⟩ | ⟨failure, front, last, back, rfl, whole, part⟩
      · exact .inl ⟨answer :: answers, rfl, congrArg (question :: ·) all, congrArg (· + 1) each⟩
      · exact .inr ⟨failure, question :: front, last, back, rfl, congrArg (question :: ·) whole,
          congrArg (question :: ·) part⟩

theorem run_recording (ask : String -> StateM World (Outcome String)) (log : List String)
    (question : String) (world : World) :
    (recording ask question).run (log, world) =
      let (answer, later) := (ask question).run world
      (answer, (log ++ [question], later)) :=
  rfl

/-- Noting the questions changes nothing, and those that are noted are those
that are asked. -/
theorem Asked.recorded {questions : List String} (log : List String)
    (asked : Asked ask world questions made (outcome, later)) :
    Asked (recording ask) (log, world) questions made (outcome, (log ++ made, later)) := by
  generalize ended : (outcome, later) = ending at asked
  induction asked generalizing outcome later log with
  | finished =>
      cases ended
      rw [List.append_nil]
      exact .finished _
  | refused asked =>
      cases ended
      apply Asked.refused
      rw [run_recording, asked]
  | @answered _ _ _ question _ _ _ _ asked others inductiveHypothesis =>
      cases ended
      have further := inductiveHypothesis (log ++ [question]) rfl
      rw [List.append_assoc] at further
      refine .answered ?_ further
      rw [run_recording, asked]

theorem run_bind {First Second : Type} (attempt : ExceptT Failure (StateM World) First)
    (next : First -> ExceptT Failure (StateM World) Second) (world : World) :
    (attempt >>= next).run.run world =
      match attempt.run.run world with
      | (.ok value, between) => (next value).run.run between
      | (.error failure, between) => (.error failure, between) := by
  rw [ExceptT.run_bind, StateT.run_bind]
  rcases attempt.run.run world with ⟨value, between⟩
  cases value <;> rfl

/-- What has been answered is bound to the names, as it is filled in.  The
first name decides how the asking goes on, and if one question is refused
there are no bindings at all. -/
theorem run_askAll {number : Nat}
    (asked : Asked ask world (questions number names) made (outcome, later)) :
    (askAll ask number names).run.run world =
      (outcome.map fun answers => (List.zipWith Binding.mk names answers).map formatted, later) := by
  induction names generalizing number made world outcome with
  | nil =>
      cases asked with
      | finished => rfl
  | cons name rest inductiveHypothesis =>
      rw [questions_cons] at asked
      rw [askAll, run_bind]
      cases asked with
      | refused asked =>
          have first : (ExceptT.mk (ask (question number name))).run.run world = (.error _, later) := asked
          rw [first]
          rfl
      | @answered _ _ _ _ answer _ _ others asked further =>
          have first : (ExceptT.mk (ask (question number name))).run.run world = (.ok answer, _) := asked
          rw [first]
          dsimp only
          rw [run_bind, inductiveHypothesis further]
          cases others <;> rfl

/-! ## What is filled in -/

theorem mem_unsupplied_iff :
    name ∈ unsupplied supplied names ↔ name ∈ names ∧ name ∉ Binding.names supplied := by
  rw [unsupplied, List.mem_filter, decide_eq_true_eq]

theorem filter_binds (supplied : List (Binding String)) (names : List String) :
    (names.filter fun name => !Binding.binds supplied name) = unsupplied supplied names := by
  refine List.filter_congr fun name _ => ?_
  have bound_iff : Binding.binds supplied name = true ↔ name ∈ Binding.names supplied := by
    simp [Binding.binds, Binding.names]
  rw [Bool.eq_iff_iff, decide_eq_true_eq, Bool.not_eq_true', ← Bool.not_eq_true, bound_iff]

theorem unsupplied_append_cons {front back : List String} (free : name ∉ Binding.names supplied) :
    unsupplied supplied (front ++ name :: back) =
      unsupplied supplied front ++ name :: unsupplied supplied back := by
  rw [unsupplied, List.filter_append, List.filter_cons_of_pos (by simpa using free)]
  rfl

theorem count_unsupplied (free : name ∉ Binding.names supplied) :
    (unsupplied supplied names).count name = names.count name :=
  List.count_filter (by simpa using free)

theorem names_map_formatted (bindings : List (Binding String)) :
    Binding.names (bindings.map formatted) = Binding.names bindings := by
  rw [Binding.names, List.map_map]
  rfl

theorem valuesOf_map_formatted (bindings : List (Binding String)) (name : String) :
    Binding.valuesOf (bindings.map formatted) name =
      (Binding.valuesOf bindings name).map (formatValue name) := by
  rw [Binding.valuesOf, Binding.valuesOf, List.filter_map, List.map_map, List.map_map]
  apply List.map_congr_left
  intro binding member
  have same : binding.name = name := eq_of_beq (List.mem_filter.mp member).2
  exact congrArg (formatValue · binding.value) same

theorem valueAt?_map_formatted (bindings : List (Binding String)) (name : String) (occurrence : Nat) :
    Binding.valueAt? (bindings.map formatted) name occurrence =
      (Binding.valueAt? bindings name occurrence).map (formatValue name) := by
  rw [Binding.valueAt?, valuesOf_map_formatted, List.length_map, List.getElem?_map]
  rfl

/-- The supplied values and, behind them, the answers for the other names.  No
name is among both. -/
def collected (supplied : List (Binding String)) (names answers : List String) :
    List (Binding String) :=
  supplied ++ List.zipWith Binding.mk (unsupplied supplied names) answers

theorem names_collected (each : answers.length = (unsupplied supplied names).length) :
    Binding.names (collected supplied names answers) =
      Binding.names supplied ++ unsupplied supplied names := by
  rw [collected, Binding.names, List.map_append]
  exact congrArg (Binding.names supplied ++ ·) (Binding.names_zipWith _ answers each)

/-- Answers do not come between the values that have been supplied for a
name. -/
theorem valueAt?_collected_of_mem (each : answers.length = (unsupplied supplied names).length)
    (bound : name ∈ Binding.names supplied) (occurrence : Nat) :
    Binding.valueAt? (collected supplied names answers) name occurrence =
      Binding.valueAt? supplied name occurrence := by
  have notAsked : name ∉ Binding.names (List.zipWith Binding.mk (unsupplied supplied names) answers) := by
    rw [Binding.names_zipWith _ answers each, mem_unsupplied_iff]
    exact fun asked => asked.2 bound
  rw [Binding.valueAt?, collected, Binding.valuesOf_append, Binding.valuesOf_of_not_mem notAsked,
    List.append_nil]
  rfl

/-- Without values, each occurrence of a name comes to the answer to its own
question: so many of the questions before it were for other occurrences of the
name. -/
theorem valueAt?_collected_of_not_mem {front back : List String}
    (each : answers.length = (unsupplied supplied (front ++ name :: back)).length)
    (free : name ∉ Binding.names supplied) :
    Binding.valueAt? (collected supplied (front ++ name :: back) answers) name
        (front.count name + 1) =
      answers[(unsupplied supplied front).length]? := by
  rw [unsupplied_append_cons free, List.length_append, List.length_cons] at each
  have inside : (unsupplied supplied front).length < answers.length := by
    omega
  obtain ⟨before, answer, after, rfl, position⟩ :
      ∃ before answer after, answers = before ++ answer :: after ∧
        before.length = (unsupplied supplied front).length :=
    ⟨_, _, _, (List.take_append_drop _ answers).symm.trans
      (congrArg (_ ++ ·) (List.drop_eq_getElem_cons inside)), List.length_take_of_le inside.le⟩
  have bindings : collected supplied (front ++ name :: back) (before ++ answer :: after) =
      collected supplied front before ++ ⟨name, answer⟩ ::
        List.zipWith Binding.mk (unsupplied supplied back) after := by
    rw [collected, unsupplied_append_cons free, List.zipWith_append position.symm, collected,
      List.append_assoc]
    rfl
  have passed : (Binding.names (collected supplied front before)).count name = front.count name := by
    rw [names_collected position, List.count_append, List.count_eq_zero.mpr free, Nat.zero_add,
      count_unsupplied free]
  have next := Binding.valueAt?_append_cons (collected supplied front before)
    (List.zipWith Binding.mk (unsupplied supplied back) after) ⟨name, answer⟩
  dsimp only at next
  rw [bindings, ← passed, next, ← position, List.getElem?_append_right (Nat.le_refl _), Nat.sub_self]
  rfl

/-- The values that the names take from the supplied ones and the answers are
those they ought to have. -/
theorem answered_of_takes {values : List String}
    (each : answers.length = (unsupplied supplied names).length)
    (takes : Binding.Takes ((collected supplied names answers).map formatted) names values) :
    Answered supplied names answers values where
  length := takes.length
  bound := by
    intro front name back written bound
    refine (takes.value front name back written).trans ?_
    refine (valueAt?_map_formatted _ name (front.count name + 1)).trans ?_
    rw [valueAt?_collected_of_mem each bound]
    rfl
  free := by
    intro front name back written free
    refine (takes.value front name back written).trans ?_
    refine (valueAt?_map_formatted _ name (front.count name + 1)).trans ?_
    subst written
    rw [valueAt?_collected_of_not_mem each free]

/-- Filling from the supplied values and the answers never fails, and every
occurrence gets the value that it ought to have. -/
theorem exists_answered (pattern : Pattern)
    (each : answers.length = (unsupplied supplied pattern.template.names).length) :
    ∃ values, Answered supplied pattern.template.names answers values ∧
      pattern.apply ((collected supplied pattern.template.names answers).map formatted) =
        .ok (String.ofList (Fragment.written pattern.fragments (values.map String.toList))) := by
  rcases Pattern.apply_takes_or pattern
    ((collected supplied pattern.template.names answers).map formatted) with
    ⟨values, takes, filled⟩ | ⟨name, unknown, _⟩
  · exact ⟨values, answered_of_takes each takes, filled⟩
  · have known : Binding.firstUnknown?
        (Binding.names ((collected supplied pattern.template.names answers).map formatted))
        pattern.template.names = none := by
      rw [Binding.firstUnknown?_eq_none_iff, names_map_formatted, names_collected each]
      intro name member
      rw [List.mem_append, mem_unsupplied_iff]
      by_cases bound : name ∈ Binding.names supplied
      · exact .inl bound
      · exact .inr ⟨member, bound⟩
    cases unknown.symm.trans known

/-! ## Filling -/

/-- A text that is no template fails before anything is asked. -/
theorem run_fill_of_parse_error {text : String} {error : Template.SyntaxError}
    (malformed : Template.parse text = .error error) (ask : String -> StateM World (Outcome String))
    (supplied : List (Binding String)) (world : World) :
    (fill ask text supplied).run.run world = (.error (.template error none), world) := by
  rw [fill, Pattern.parse, Pattern.templateOf, malformed]
  rfl

/-- What has been answered is filled in, and whoever is asked is left in the
state in which the asking leaves them. -/
theorem run_fill {text : String} {template : Template} (read : Template.parse text = .ok template)
    (asked : Asked ask world (questions 1 (unsupplied supplied template.names)) made (outcome, later)) :
    (fill ask text supplied).run.run world =
      (outcome >>= fun answers => (Pattern.ofTemplate text template fun _ => none).apply
        ((collected supplied template.names answers).map formatted), later) := by
  have parsed : Pattern.parse text [] = .ok (Pattern.ofTemplate text template fun _ => none) := by
    rw [Pattern.parse, Pattern.templateOf, read]
    rfl
  have begun : (ExceptT.mk (pure (Pattern.parse text [])) :
      ExceptT Failure (StateM World) Pattern).run.run world =
        (.ok (Pattern.ofTemplate text template fun _ => none), world) :=
    congrArg (·, world) parsed
  have answered : (askAll ask 1 (unsupplied supplied
      (Pattern.ofTemplate text template fun _ => none).template.names)).run.run world = _ :=
    run_askAll asked
  rw [fill, run_bind, begun]
  dsimp only
  rw [run_bind, filter_binds, answered]
  cases outcome with
  | error failure => rfl
  | ok answers =>
      have all : (collected supplied template.names answers).map formatted = supplied.map formatted ++
          (List.zipWith Binding.mk (unsupplied supplied template.names) answers).map formatted :=
        List.map_append
      exact congrArg (fun bindings =>
        ((Pattern.ofTemplate text template fun _ => none).apply bindings, later)) all.symm

/-- The asking decides how the filling ends: once all is answered there is a
value for every occurrence. -/
theorem exists_fills {template : Template} (text : String) (asked : Asked ask world
      (questions 1 (unsupplied supplied template.names)) made (outcome, later)) :
    ∃ result, Fills supplied template (questions 1 (unsupplied supplied template.names)) made outcome
        result ∧
      (outcome >>= fun answers => (Pattern.ofTemplate text template fun _ => none).apply
        ((collected supplied template.names answers).map formatted)) = result := by
  rcases asked.through with
    ⟨answers, rfl, all, each⟩ | ⟨failure, front, question, back, rfl, whole, part⟩
  · have enough : answers.length = (unsupplied supplied template.names).length := by
      rw [each, length_questions]
    rcases exists_answered (Pattern.ofTemplate text template fun _ => none) enough with
      ⟨values, answered, filled⟩
    exact ⟨_, .filled all each answered, filled⟩
  · exact ⟨_, .refused whole part, rfl⟩

/-- Whatever the template and whoever is asked, the filling goes like this.
If the text is no template, it fails and nothing is asked.  Otherwise there is
a question for each occurrence of a placeholder that no value has been
supplied for, in the order of the template; each is asked once and with its
number, until one is refused, and then the filling fails for the same reason.
If none is, the filling succeeds: each of these occurrences has the answer to
its own question, and the others have the supplied values in their order, the
last one as often as necessary, all of them formatted once.  What a recorder
notes are the questions that are asked, and it changes nothing. -/
theorem fill_asks (ask : String -> StateM World (Outcome String)) (text : String)
    (supplied : List (Binding String)) (world : World) :
    (forall error, Template.parse text = .error error ->
      (fill ask text supplied).run.run world = (.error (.template error none), world) ∧
      forall log, (fill (recording ask) text supplied).run.run (log, world) =
        (.error (.template error none), (log, world))) ∧
    forall template, Template.parse text = .ok template ->
      ∃ made outcome later result,
        Asked ask world (questions 1 (unsupplied supplied template.names)) made (outcome, later) ∧
        Fills supplied template (questions 1 (unsupplied supplied template.names)) made outcome result ∧
        (fill ask text supplied).run.run world = (result, later) ∧
        forall log, (fill (recording ask) text supplied).run.run (log, world) =
          (result, (log ++ made, later)) := by
  constructor
  · intro fault malformed
    exact ⟨run_fill_of_parse_error malformed ask supplied world,
      fun log => run_fill_of_parse_error malformed (recording ask) supplied (log, world)⟩
  · intro template read
    rcases exists_asked ask (questions 1 (unsupplied supplied template.names)) world with
      ⟨made, outcome, later, asked⟩
    rcases exists_fills text asked with ⟨result, fills, same⟩
    refine ⟨made, outcome, later, result, asked, fills, ?_, fun log => ?_⟩
    · rw [run_fill read asked, same]
    · rw [run_fill read (asked.recorded log), same]

/-- A template with placeholders that values are supplied for and others. -/
def mixedExample : Template :=
  ⟨[("", "Big_cat"), (" ", "n"), (" ", "b"), ("", "n"), (" ", "Big_cat"), (" ", "n")], ""⟩

def suppliedExample : List (Binding String) :=
  [⟨"n", "1"⟩, ⟨"n", "2"⟩]

theorem fill_asks_mixedExample :
    (∃ answers later,
      Asked Script.ask ⟨["tom", "y", "felix"], []⟩ (questions 1 ["Big_cat", "b", "Big_cat"])
        ["(1) big cat", "(2) b", "(3) big cat"] (.ok answers, later) ∧
      Fills suppliedExample mixedExample (questions 1 ["Big_cat", "b", "Big_cat"])
        ["(1) big cat", "(2) b", "(3) big cat"] (.ok answers) (.ok "Tom 1 y2 Felix 2")) ∧
    ∃ error, (fill Script.ask "$$$" suppliedExample).run.run ⟨["tom"], []⟩ =
      (.error (.template error none), ⟨["tom"], []⟩) := by
  constructor
  · have parsed : (Template.parse "${Big_cat} ${n} ${b}${n} ${Big_cat} ${n}").toOption =
        some mixedExample := by
      decide +kernel
    have filled : ((fill Script.ask "${Big_cat} ${n} ${b}${n} ${Big_cat} ${n}"
        suppliedExample).run.run ⟨["tom", "y", "felix"], []⟩).1.toOption =
          some "Tom 1 y2 Felix 2" := by
      decide +kernel
    have noted : ((fill (recording Script.ask) "${Big_cat} ${n} ${b}${n} ${Big_cat} ${n}"
        suppliedExample).run.run ([], ⟨["tom", "y", "felix"], []⟩)).2.1 =
          ["(1) big cat", "(2) b", "(3) big cat"] := by
      decide +kernel
    rw [Except.toOption_eq_some_iff] at parsed
    rcases (fill_asks Script.ask _ suppliedExample ⟨["tom", "y", "felix"], []⟩).2 mixedExample
      parsed with ⟨made, outcome, later, result, asked, fills, ended, recorded⟩
    rw [ended, Except.toOption_eq_some_iff] at filled
    rw [recorded []] at noted
    cases noted
    cases filled
    generalize text : "Tom 1 y2 Felix 2" = written at fills ⊢
    cases fills with
    | filled all each answered => exact ⟨_, _, asked, .filled all each answered⟩
  · have malformed : (Template.parse "$$$").toOption = none := by
      decide +kernel
    cases parsed : Template.parse "$$$" with
    | ok template =>
        rw [parsed] at malformed
        cases malformed
    | error fault =>
        exact ⟨fault, ((fill_asks Script.ask "$$$" suppliedExample ⟨["tom"], []⟩).1 fault parsed).1⟩

end Filling
end Stencil

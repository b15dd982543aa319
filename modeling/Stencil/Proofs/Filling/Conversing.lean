import Stencil.Filling.Terminal
import Stencil.Proofs.Filling.Asking
import Stencil.Proofs.Outcome
import Stencil.Proofs.Text.Line

namespace Stencil
namespace Filling

/-!
Answering at a terminal as answering by a script.  The replies of the script
are the lines of the input that are not empty (`answers`), and whoever fills
in a template cannot tell the two from each other: the same questions are
asked, with the same outcome.

At the terminal the questions share one input, and each of them may be shown
several times before there is an answer.  `Converses` says how the turns of
the conversation use the input up; a turn is a question that has been shown
and what has been read after it.  What is left behind the last turn has not
been touched.

The main statement is `fill_terminal`.
-/

/-- The answers in an input: its lines, other than the empty ones.  A line
feed at the end does not begin another one. -/
def answers (input : List Char) : List String :=
  ((input.splitOn '\n').filter fun line => !line.isEmpty).map String.ofList

/-- A question that has been shown, and the line that has been read then, with
its line feed if it has one.  Nothing has been read if the input has ended. -/
structure Turn where
  question : String
  line : List Char
  deriving DecidableEq, Repr

/-- What a turn leaves on the terminal: the question and, if the line is
empty, that it is refused. -/
def Turn.shown (turn : Turn) : String :=
  turn.question ++ Terminal.questionEnd ++ (if turn.line = ['\n'] then Terminal.refusal else "")

def shownBy (turns : List Turn) : String :=
  String.join (turns.map Turn.shown)

/-- The questions are asked in turns, which read the input as far as the rest.
A question is shown for every empty line that is read after it and once more
for its answer, which is the first line that is not empty, or for the end of
the input.  There is no further question after the end of the input. -/
inductive Converses : (questions : List String) -> (input : List Char) -> (turns : List Turn) ->
    (rest : List Char) -> Prop where
  | finished (rest : List Char) : Converses [] rest [] rest
  | refused {question : String} {questions : List String} {input rest : List Char} {turns : List Turn}
      (others : Converses (question :: questions) input turns rest) :
      Converses (question :: questions) ('\n' :: input) (⟨question, ['\n']⟩ :: turns) rest
  | answered {question : String} {questions : List String} {line input rest : List Char}
      {turns : List Turn} (nonempty : line ≠ []) (unended : '\n' ∉ line)
      (others : Converses questions input turns rest) :
      Converses (question :: questions) (line ++ '\n' :: input) (⟨question, line ++ ['\n']⟩ :: turns) rest
  | answeredLast {question : String} {questions : List String} {line rest : List Char}
      {turns : List Turn} (nonempty : line ≠ []) (unended : '\n' ∉ line)
      (others : Converses questions [] turns rest) :
      Converses (question :: questions) line (⟨question, line⟩ :: turns) rest
  | ended (question : String) : Converses [question] [] [⟨question, []⟩] []

variable {input rest line : List Char} {question shown : String} {turns : List Turn}

/-! ## The answers in an input -/

theorem answers_nil : answers [] = [] :=
  rfl

theorem answers_lineFeed : answers ('\n' :: rest) = answers rest := by
  rw [answers, ← List.nil_append ('\n' :: rest), List.splitOn_append_cons_self_of_not_mem List.not_mem_nil]
  rfl

theorem answers_line (nonempty : line ≠ []) (unended : '\n' ∉ line) :
    answers (line ++ '\n' :: rest) = String.ofList line :: answers rest := by
  rw [answers, List.splitOn_append_cons_self_of_not_mem unended, List.filter_cons_of_pos (by simpa using nonempty)]
  rfl

theorem answers_lastLine (nonempty : line ≠ []) (unended : '\n' ∉ line) :
    answers line = [String.ofList line] := by
  rw [answers, List.splitOn_eq_singleton unended, List.filter_cons_of_pos (by simpa using nonempty)]
  rfl

example : answers "Ann\n\n \nBob".toList = ["Ann", " ", "Bob"] := by
  decide +kernel

/-! ## Asking once -/

theorem shownBy_cons (turn : Turn) : shownBy (turn :: turns) = turn.shown ++ shownBy turns := by
  rw [shownBy, List.map_cons, String.join_cons]
  rfl

theorem shownBy_append (turns further : List Turn) :
    shownBy (turns ++ further) = shownBy turns ++ shownBy further := by
  rw [shownBy, List.map_append, String.join_append]
  rfl

/-- A line that is not empty, or the end of the input, only leaves the
question. -/
theorem append_shownBy_singleton (accepted : line ≠ ['\n']) :
    shown ++ shownBy [⟨question, line⟩] = shown ++ question ++ Terminal.questionEnd := by
  rw [shownBy_cons, Turn.shown, if_neg accepted, String.append_empty, ← String.append_assoc,
    ← String.append_assoc]
  exact String.append_empty

theorem append_shownBy_refused :
    shown ++ shownBy (⟨question, ['\n']⟩ :: turns) =
      shown ++ question ++ Terminal.questionEnd ++ Terminal.refusal ++ shownBy turns := by
  rw [shownBy_cons, Turn.shown, if_pos rfl]
  simp only [String.append_assoc]

namespace Terminal

theorem askFrom_nil : askFrom question shown [] =
    (.error .endOfInput, ⟨[], shown ++ shownBy [⟨question, []⟩]⟩) := by
  rw [askFrom, append_shownBy_singleton (List.cons_ne_nil _ _).symm]

theorem askFrom_lineFeed : askFrom question shown ('\n' :: rest) =
    askFrom question (shown ++ question ++ questionEnd ++ refusal) rest := by
  rw [askFrom]
  rfl

theorem askFrom_line (nonempty : line ≠ []) (unended : '\n' ∉ line) :
    askFrom question shown (line ++ '\n' :: rest) =
      (.ok (String.ofList line), ⟨rest, shown ++ shownBy [⟨question, line ++ ['\n']⟩]⟩) := by
  have accepted : line ++ ['\n'] ≠ ['\n'] := fun same =>
    nonempty (List.append_cancel_right (same : line ++ ['\n'] = [] ++ ['\n']))
  have content : lineContent (line ++ ['\n']) = line := Text.takeWhile_ended unended
  rw [append_shownBy_singleton accepted]
  cases line with
  | nil => exact absurd rfl nonempty
  | cons character others =>
      rw [List.cons_append, askFrom, ← List.cons_append, Text.readLine_ended unended]
      simp only [content]

theorem askFrom_lastLine (nonempty : line ≠ []) (unended : '\n' ∉ line) :
    askFrom question shown line =
      (.ok (String.ofList line), ⟨[], shown ++ shownBy [⟨question, line⟩]⟩) := by
  have accepted : line ≠ ['\n'] := fun same => unended (same ▸ List.mem_singleton_self _)
  have content : lineContent line = line := Text.takeWhile_unended unended
  rw [append_shownBy_singleton accepted]
  cases line with
  | nil => exact absurd rfl nonempty
  | cons character others =>
      rw [askFrom, Text.readLine_unended unended]
      simp only [content]

end Terminal

/-- What comes of asking a question: its turns read the input as far as the
rest and end with the first answer in it, or with the end of the input if
there is none. -/
inductive Answers (question : String) (input : List Char) (turns : List Turn) (rest : List Char) :
    Outcome String -> Prop where
  | answered {answer : String} (first : answers input = answer :: answers rest)
      (others : forall questions further later, Converses questions rest further later ->
        Converses (question :: questions) input (turns ++ further) later) :
      Answers question input turns rest (.ok answer)
  | ended (nothing : answers input = []) (all : rest = [])
      (whole : Converses [question] input turns []) :
      Answers question input turns rest (.error .endOfInput)

theorem Answers.refused {outcome : Outcome String} (asked : Answers question input turns rest outcome) :
    Answers question ('\n' :: input) (⟨question, ['\n']⟩ :: turns) rest outcome := by
  cases asked with
  | answered first others =>
      exact .answered (answers_lineFeed.trans first) fun questions further later conversed =>
        .refused (others questions further later conversed)
  | ended nothing all whole => exact .ended (answers_lineFeed.trans nothing) all (.refused whole)

/-- Asking at the terminal goes through the empty lines up to an answer or to
the end of the input. -/
theorem exists_turns (question shown : String) (input : List Char) :
    ∃ turns rest outcome, Answers question input turns rest outcome ∧
      Terminal.askFrom question shown input = (outcome, ⟨rest, shown ++ shownBy turns⟩) := by
  induction input generalizing shown with
  | nil => exact ⟨_, _, _, .ended answers_nil rfl (.ended question), Terminal.askFrom_nil⟩
  | cons character input inductiveHypothesis =>
      by_cases ends : character = '\n'
      · subst ends
        rcases inductiveHypothesis (shown ++ question ++ Terminal.questionEnd ++ Terminal.refusal) with
          ⟨turns, rest, outcome, asked, ran⟩
        refine ⟨_, rest, outcome, asked.refused, ?_⟩
        rw [Terminal.askFrom_lineFeed, ran, append_shownBy_refused]
      · rcases Text.exists_line ends with ⟨line, nonempty, unended, last | ⟨rest, more⟩⟩
        · rw [last]
          refine ⟨_, _, _, .answered (answers_lastLine nonempty unended) ?_,
            Terminal.askFrom_lastLine nonempty unended⟩
          exact fun questions further later others => .answeredLast nonempty unended others
        · rw [more]
          refine ⟨_, _, _, .answered (answers_line nonempty unended) ?_,
            Terminal.askFrom_line nonempty unended⟩
          exact fun questions further later others => .answered nonempty unended others

/-! ## Asking all questions -/

variable {questions made asked : List String} {outcome : Outcome (List String)} {later : Terminal}

/-- All that has been read is in the turns, and in their order.  So nothing is
read that no question was shown for. -/
theorem Converses.flatMap_line (conversed : Converses asked input turns rest) :
    turns.flatMap Turn.line ++ rest = input := by
  induction conversed with
  | finished => rfl
  | refused _ inductiveHypothesis =>
      rw [List.flatMap_cons, List.append_assoc, inductiveHypothesis]
      rfl
  | answered _ _ _ inductiveHypothesis =>
      rw [List.flatMap_cons, List.append_assoc, inductiveHypothesis, List.append_assoc]
      rfl
  | answeredLast _ _ _ inductiveHypothesis =>
      rw [List.flatMap_cons, List.append_assoc, inductiveHypothesis, List.append_nil]
  | ended => rfl

/-- There is one answer for each question, and the others are left for the
questions to come. -/
theorem Converses.answers_rest (conversed : Converses asked input turns rest) :
    answers rest = (answers input).drop asked.length := by
  induction conversed with
  | finished => rfl
  | refused _ inductiveHypothesis => rw [inductiveHypothesis, answers_lineFeed]
  | answered nonempty unended _ inductiveHypothesis =>
      rw [inductiveHypothesis, answers_line nonempty unended]
      rfl
  | answeredLast nonempty unended _ inductiveHypothesis =>
      rw [inductiveHypothesis, answers_lastLine nonempty unended]
      rfl
  | ended => rfl

/-- What happens at the terminal happens by the script of its answers, too.
The script keeps the questions; the terminal may show each of them several
times. -/
theorem Asked.converses (log : List String)
    (asked : Asked Terminal.ask ⟨input, shown⟩ questions made (outcome, later)) :
    ∃ turns, later.shown = shown ++ shownBy turns ∧ Converses made input turns later.input ∧
      Asked Script.ask ⟨answers input, log⟩ questions made
        (outcome, ⟨answers later.input, made.reverse ++ log⟩) := by
  generalize began : (⟨input, shown⟩ : Terminal) = world at asked
  generalize ended : (outcome, later) = ending at asked
  induction asked generalizing input shown log outcome later with
  | finished =>
      cases began
      cases ended
      exact ⟨[], String.append_empty.symm, .finished _, .finished _⟩
  | @refused _ _ question _ _ asked =>
      cases began
      cases ended
      rcases exists_turns question shown input with ⟨turns, rest, reply, answers, ran⟩
      cases ran.symm.trans asked
      cases answers with
      | ended nothing all whole =>
          subst all
          refine ⟨turns, rfl, whole, .refused ?_⟩
          rw [nothing]
          rfl
  | @answered _ between _ question _ _ made _ asked others inductiveHypothesis =>
      cases began
      cases ended
      rcases exists_turns question shown input with ⟨turns, rest, reply, answers, ran⟩
      cases ran.symm.trans asked
      cases answers with
      | answered first more =>
          rcases inductiveHypothesis (question :: log) rfl rfl with ⟨further, shows, conversed, scripted⟩
          refine ⟨turns ++ further, ?_, more _ _ _ conversed, ?_⟩
          · rw [shows, shownBy_append, String.append_assoc]
          · rw [List.reverse_cons, List.append_assoc]
            refine .answered ?_ scripted
            rw [first]
            rfl

/-- A script runs out of replies exactly if there are fewer of them than
questions. -/
theorem Script.endOfInput_iff {replies log : List String} {script : Script}
    (asked : Asked Script.ask ⟨replies, log⟩ questions made (outcome, script)) :
    outcome = .error .endOfInput ↔ replies.length < questions.length := by
  generalize began : (⟨replies, log⟩ : Script) = world at asked
  generalize ended : (outcome, script) = ending at asked
  induction asked generalizing replies log outcome script with
  | finished =>
      cases ended
      simp
  | refused asked =>
      cases began
      cases ended
      cases replies with
      | nil =>
          cases asked
          simp
      | cons reply rest => cases asked
  | answered asked others inductiveHypothesis =>
      cases began
      cases ended
      cases replies with
      | nil => cases asked
      | cons reply rest =>
          cases asked
          have further := inductiveHypothesis rfl rfl
          rw [List.length_cons, List.length_cons, Nat.add_lt_add_iff_right, ← further,
            Except.map_eq_error_iff]

/-! ## Filling in at the terminal -/

/-- Filling in fails for want of an answer only if the asking does: no other
failure looks the same. -/
theorem Fills.endOfInput_iff {supplied : List (Binding String)} {template : Template}
    {result : Outcome String} (fills : Fills supplied template questions made outcome result) :
    result = .error .endOfInput ↔ outcome = .error .endOfInput := by
  cases fills with
  | filled => simp
  | refused => simp

/-- Filling in a template at the terminal is filling it in by a script, whose
replies are the lines of the input that are not empty: the outcome is the
same, and so are the questions.  It fails for want of an answer exactly if
there are fewer such lines than occurrences of placeholders that no value has
been supplied for.  Each question is shown once for each line that is read
after it, or for the end of the input, and each empty line is refused once;
and no line is read after the answer to the last question. -/
theorem fill_terminal (text : String) (supplied : List (Binding String)) (input : List Char)
    (shown : String) :
    ∃ outcome asked turns rest,
      (fill Terminal.ask text supplied).run.run ⟨input, shown⟩ =
        (outcome, ⟨rest, shown ++ shownBy turns⟩) ∧
      Script.fill (answers input) text supplied = (outcome, asked) ∧
      Converses asked input turns rest ∧ turns.flatMap Turn.line ++ rest = input ∧
      answers rest = (answers input).drop asked.length ∧
      (outcome = .error .endOfInput ↔ ∃ template, Template.parse text = .ok template ∧
        (answers input).length < (unsupplied supplied template.names).length) := by
  cases read : Template.parse text with
  | error fault =>
      refine ⟨.error (.template fault none), [], [], input, ?_, ?_, .finished input, rfl, rfl, ?_⟩
      · rw [run_fill_of_parse_error read, shownBy, List.map_nil]
        exact congrArg (fun shown => (_, (⟨input, shown⟩ : Terminal))) String.append_empty.symm
      · rw [Script.fill, run_fill_of_parse_error read]
        rfl
      · simp
  | ok template =>
      rcases exists_asked Terminal.ask (questions 1 (unsupplied supplied template.names))
        ⟨input, shown⟩ with ⟨made, outcome, ⟨rest, after⟩, asked⟩
      rcases asked.converses [] with ⟨turns, rfl, conversed, scripted⟩
      rcases exists_fills text asked with ⟨result, fills, same⟩
      refine ⟨result, made, turns, rest, ?_, ?_, conversed, conversed.flatMap_line,
        conversed.answers_rest, ?_⟩
      · rw [run_fill read asked, same]
      · rw [Script.fill, run_fill read scripted, same]
        simp
      · rw [fills.endOfInput_iff, Script.endOfInput_iff scripted, length_questions]
        simp

end Filling
end Stencil

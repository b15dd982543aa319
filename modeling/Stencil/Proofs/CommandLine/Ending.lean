import Stencil.CommandLine.Run
import Stencil.Proofs.Assignment.Splitting
import Stencil.Proofs.Outcome
import Stencil.Proofs.Transform.Checking

namespace Stencil
namespace CommandLine

/-!
How a run of the command ends.  There are three ways: a mistake in the
command, with exit code two, a failure, with exit code one, and success.
Mistakes come first: whether there is one, and which, is decided by the
arguments and by whether there is a file (`Mistaken`), before anybody is asked
anything; so it depends neither on what the file holds nor on the templates.
Otherwise the command fills in or rewrites, and only if that succeeds is
anything written to the output, and then exactly the result (`Delivers`).
Reports of rewrites do not get there, and the result is the same without them.

The files may be any, nested ones included, and so may be whoever is asked.
The main statement is `run_ends`.
-/

/-- The text can be read as an assignment: it has an equals sign, and does not
begin with one. -/
def IsAssignment (text : String) : Prop :=
  '=' ∈ text.toList ∧ text.toList.head? ≠ some '='

instance : DecidablePred IsAssignment :=
  fun text => inferInstanceAs (Decidable ('=' ∈ text.toList ∧ text.toList.head? ≠ some '='))

inductive Mistake where
  /-- The arguments are refused because of this problem. -/
  | arguments (problem : String)
  /-- This text is no assignment. -/
  | assignment (text : String)
  /-- There is something that only a rewriting needs, and no templates. -/
  | noTemplates
  | noFile (name : String)
  deriving DecidableEq, Repr

def Mistake.message : Mistake -> String
  | .arguments problem => usage ++ programName ++ ": error: " ++ problem
  | .assignment text => (Failure.malformedAssignment text).message
  | .noTemplates => "error: options -e, -c, and -R can only be used with option -t"
  | .noFile name => "error: file `" ++ name ++ "` not found"

/-- The arguments and all assignments in them can be read, and there are
templates if anything needs them.  Files are looked at only after that. -/
structure Understood (arguments : List String) (read : Arguments)
    (values expressions : List (Binding String)) : Prop where
  parsed : parseArguments arguments = .ok read
  values : Assignment.parseAll read.values = .ok values
  expressions : Assignment.parseAll read.expressions = .ok expressions
  templates : read.templates = none ->
    read.expressions = [] ∧ read.checkReversible = false ∧ read.reverse = false

/-- The command has this mistake and none that is looked for before it.  First
the arguments are read, then the assignments, those of values before those of
expressions, then it is seen whether templates are missing, and last whether
there is a file. -/
inductive Mistaken (files : String -> ReadResult) (arguments : List String) : Mistake -> Prop where
  | arguments {halt : Halt} {problem : String} (halted : parseArguments arguments = .error halt)
      (why : halt.problem? = some problem) : Mistaken files arguments (.arguments problem)
  | assignment {read : Arguments} {front back : List String} {text : String}
      (parsed : parseArguments arguments = .ok read)
      (listed : read.values ++ read.expressions = front ++ text :: back)
      (before : forall other, other ∈ front -> IsAssignment other) (malformed : ¬ IsAssignment text) :
      Mistaken files arguments (.assignment text)
  | noTemplates {read : Arguments} (parsed : parseArguments arguments = .ok read)
      (assignments : forall text, text ∈ read.values ++ read.expressions -> IsAssignment text)
      (absent : read.templates = none)
      (needed : read.expressions ≠ [] ∨ read.checkReversible = true ∨ read.reverse = true) :
      Mistaken files arguments .noTemplates
  | noFile {read : Arguments} {values expressions : List (Binding String)}
      (understood : Understood arguments read values expressions)
      (missing : files read.file = .missing) : Mistaken files arguments (.noFile read.file)

variable {World : Type}

/-- A console with these files, and with somebody to be asked.  Asking may
change the world, reading a file does not. -/
def consoleWith (files : String -> ReadResult) (ask : String -> StateM World (Outcome String)) :
    Console (StateM World) where
  readFile name := pure (files name)
  ask := ask

/-- What becomes of the text of the file: without templates it is filled in,
otherwise it is rewritten, and no rewrite is reported. -/
def result (ask : String -> StateM World (Outcome String)) (world : World) (read : Arguments)
    (values expressions : List (Binding String)) (text : String) : Outcome String :=
  match read.templates with
  | none => ((Filling.fill ask text values).run.run world).1
  | some (left, right) =>
      (rewriteText text left right (givenExpressions expressions) read.checkReversible read.reverse
        false).map Prod.fst

/-- The command succeeds with this output: a text that was asked for, or what
becomes of the text of the file. -/
inductive Delivers (files : String -> ReadResult) (ask : String -> StateM World (Outcome String))
    (world : World) (arguments : List String) : String -> Prop where
  | help (halted : parseArguments arguments = .error .help) : Delivers files ask world arguments help
  | version (halted : parseArguments arguments = .error .version) :
      Delivers files ask world arguments versionLine
  | result {read : Arguments} {values expressions : List (Binding String)} {text output : String}
      (understood : Understood arguments read values expressions)
      (readable : textOf read.file (files read.file) = .ok text)
      (done : result ask world read values expressions text = .ok output) :
      Delivers files ask world arguments output

/-- The command has no mistake, and fails.  What is in the place of the file
cannot be read, or is no text, or it cannot be filled in or rewritten. -/
inductive Fails (files : String -> ReadResult) (ask : String -> StateM World (Outcome String))
    (world : World) (arguments : List String) : Prop where
  | blocked {read : Arguments} {values expressions : List (Binding String)} {obstacle : Obstacle}
      (understood : Understood arguments read values expressions)
      (blocked : files read.file = .blocked obstacle)
  | undecodable {read : Arguments} {values expressions : List (Binding String)} {bytes : List UInt8}
      {fault : Text.Utf8.Fault} (understood : Understood arguments read values expressions)
      (present : files read.file = .bytes bytes) (faulty : Text.Utf8.decode bytes = .error fault)
  | result {read : Arguments} {values expressions : List (Binding String)} {text : String}
      {failure : Failure} (understood : Understood arguments read values expressions)
      (readable : textOf read.file (files read.file) = .ok text)
      (failed : result ask world read values expressions text = .error failure)

variable {files : String -> ReadResult} {ask : String -> StateM World (Outcome String)} {world : World}
  {arguments : List String} {read : Arguments} {values expressions : List (Binding String)}
  {text output : String} {failure : Failure}

/-! ## Assignments -/

/-- An assignment can be read, and no other text.  Which binding it gives
makes no difference here. -/
theorem parse_cases (text : String) :
    (IsAssignment text ∧ ∃ binding, Assignment.parse text = .ok binding) ∨
      (¬ IsAssignment text ∧ Assignment.parse text = .error (.malformedAssignment text)) := by
  rcases Assignment.parse_splits_or text with
    ⟨front, back, named, splits⟩ | ⟨⟨back, atFirst⟩ | absent, failed⟩
  · rcases List.exists_cons_of_ne_nil named with ⟨first, others, rfl⟩
    have noSign : first ≠ '=' := by
      rintro rfl
      have escaped : Assignment.AllEscaped ('=' :: others) := by
        rcases splits with atFirst | atLast
        · exact atFirst.earlier
        · intro before after written
          refine atLast.all before (after ++ '=' :: back) ?_
          rw [atLast.written, written, List.append_assoc, List.cons_append]
      cases escaped [] others rfl
    refine .inl ⟨⟨?_, ?_⟩, _, Assignment.parse_of_splits named splits⟩
    · rw [splits.written]
      exact List.mem_append_right _ List.mem_cons_self
    · rw [splits.written]
      exact fun same => noSign (Option.some.inj same)
  · refine .inr ⟨fun assigns => assigns.2 ?_, failed⟩
    rw [atFirst.written]
    rfl
  · exact .inr ⟨fun assigns => absent assigns.1, failed⟩

theorem exists_parse (assigns : IsAssignment text) : ∃ binding, Assignment.parse text = .ok binding := by
  rcases parse_cases text with ⟨_, done⟩ | ⟨malformed, _⟩
  · exact done
  · exact absurd assigns malformed

theorem parse_of_not_isAssignment (malformed : ¬ IsAssignment text) :
    Assignment.parse text = .error (.malformedAssignment text) := by
  rcases parse_cases text with ⟨assigns, _⟩ | ⟨_, failed⟩
  · exact absurd assigns malformed
  · exact failed

theorem parseAll_cons (first : String) (rest : List String) :
    Assignment.parseAll (first :: rest) =
      Assignment.parse first >>= fun binding =>
        Assignment.parseAll rest >>= fun bindings => .ok (binding :: bindings) :=
  List.mapM_cons

theorem parseAll_append (front back : List String) :
    Assignment.parseAll (front ++ back) =
      Assignment.parseAll front >>= fun bindings =>
        Assignment.parseAll back >>= fun others => .ok (bindings ++ others) :=
  List.mapM_append

theorem exists_parseAll {texts : List String} (each : forall text, text ∈ texts -> IsAssignment text) :
    ∃ bindings, Assignment.parseAll texts = .ok bindings := by
  induction texts with
  | nil => exact ⟨[], rfl⟩
  | cons first rest inductiveHypothesis =>
      rcases exists_parse (each first List.mem_cons_self) with ⟨binding, parsed⟩
      rcases inductiveHypothesis fun text member => each text (List.mem_cons_of_mem _ member) with
        ⟨bindings, others⟩
      refine ⟨binding :: bindings, ?_⟩
      rw [parseAll_cons, parsed, others]
      rfl

/-- The first text that is no assignment is the one complained about.  Those
before it have been read in vain. -/
theorem parseAll_of_malformed {front back : List String}
    (before : forall other, other ∈ front -> IsAssignment other) (malformed : ¬ IsAssignment text) :
    Assignment.parseAll (front ++ text :: back) = .error (.malformedAssignment text) := by
  rcases exists_parseAll before with ⟨bindings, parsed⟩
  rw [parseAll_append, parsed, parseAll_cons, parse_of_not_isAssignment malformed]
  rfl

/-- All texts are assignments or there is a first that is none. -/
theorem assignments_cases (texts : List String) :
    (forall text, text ∈ texts -> IsAssignment text) ∨
      ∃ front text back, texts = front ++ text :: back ∧
        (forall other, other ∈ front -> IsAssignment other) ∧ ¬ IsAssignment text := by
  cases found : texts.find? fun text => !decide (IsAssignment text) with
  | none =>
      refine .inl fun text member => ?_
      simpa using List.find?_eq_none.mp found text member
  | some text =>
      rcases List.find?_eq_some_iff_append.mp found with ⟨malformed, front, back, listed, before⟩
      refine .inr ⟨front, text, back, listed, fun other member => ?_, ?_⟩
      · simpa using before other member
      · simpa using malformed

/-! ## Reading the order -/

theorem wantsTemplates_iff : wantsTemplates read = true ↔ read.templates = none ∧
    (read.expressions ≠ [] ∨ read.checkReversible = true ∨ read.reverse = true) := by
  simp [wantsTemplates, or_assoc]

theorem order_of_halted {halt : Halt} (halted : parseArguments arguments = .error halt) :
    order arguments = .error (.halted halt) := by
  rw [order, halted]
  rfl

def malformed (failure : Failure) : Ending :=
  .mistake failure.message

/-- Once the arguments are read, the assignments are, and then templates are
looked for. -/
theorem order_of_parsed (parsed : parseArguments arguments = .ok read) :
    order arguments =
      (Assignment.parseAll read.values).mapError malformed >>= fun values =>
        (Assignment.parseAll read.expressions).mapError malformed >>= fun expressions =>
          if wantsTemplates read then .error (.mistake Mistake.noTemplates.message)
          else .ok ⟨values, expressions, read⟩ := by
  rw [order, parsed]
  change ((Assignment.parseAll read.values).mapError malformed >>= fun values =>
    (Assignment.parseAll read.expressions).mapError malformed >>= fun expressions => _) = _
  refine bind_congr fun values => bind_congr fun expressions => ?_
  change (if wantsTemplates read = true then _ else _) = (if wantsTemplates read = true then _ else _)
  split <;> rfl

/-- Where assignments are malformed, it makes no difference which switch they
belong to. -/
theorem order_of_parseAll_eq_error (parsed : parseArguments arguments = .ok read)
    (failed : Assignment.parseAll (read.values ++ read.expressions) = .error failure) :
    order arguments = .error (malformed failure) := by
  rw [parseAll_append, Except.bind_eq_error_iff] at failed
  rcases failed with first | ⟨values, first, failed⟩
  · rw [order_of_parsed parsed, first]
    rfl
  · rcases Except.bind_eq_error_iff.mp failed with second | ⟨_, _, impossible⟩
    · rw [order_of_parsed parsed, first, second]
      rfl
    · cases impossible

theorem order_of_wantsTemplates (parsed : parseArguments arguments = .ok read)
    (first : Assignment.parseAll read.values = .ok values)
    (second : Assignment.parseAll read.expressions = .ok expressions)
    (wants : wantsTemplates read = true) :
    order arguments = .error (.mistake Mistake.noTemplates.message) := by
  rw [order_of_parsed parsed, first, second]
  exact if_pos wants

theorem order_of_understood (understood : Understood arguments read values expressions) :
    order arguments = .ok ⟨values, expressions, read⟩ := by
  have complete : ¬ wantsTemplates read = true := by
    rw [wantsTemplates_iff]
    rintro ⟨absent, needed⟩
    simp [understood.templates absent] at needed
  rw [order_of_parsed understood.parsed, understood.values, understood.expressions]
  exact if_neg complete

theorem halted_of_problem {halt : Halt} {problem : String} (why : halt.problem? = some problem) :
    Ending.halted halt = .mistake (Mistake.arguments problem).message := by
  cases halt <;> cases why <;> rfl

/-! ## Reading the file -/

theorem textOf_missing (missing : files read.file = .missing) :
    textOf read.file (files read.file) = .error (.mistake (Mistake.noFile read.file).message) := by
  rw [missing]
  rfl

/-- The file is missing, or in its place is something else or no text, or it
holds a text. -/
theorem textOf_cases (ask : String -> StateM World (Outcome String)) (world : World)
    (understood : Understood arguments read values expressions) :
    files read.file = .missing ∨ Fails files ask world arguments ∨
      ∃ text, textOf read.file (files read.file) = .ok text := by
  cases there : files read.file with
  | missing => exact .inl rfl
  | blocked obstacle => exact .inr (.inl (.blocked understood there))
  | bytes bytes =>
      cases decoded : Text.Utf8.decode bytes with
      | error fault => exact .inr (.inl (.undecodable understood there decoded))
      | ok characters =>
          refine .inr (.inr ⟨String.ofList (Text.normalizeLineEnds characters), ?_⟩)
          rw [textOf, decoded]

/-! ## The result -/

/-- Whether rewrites are reported makes no difference to what transform is
made. -/
theorem ofTemplates_verbose (checked : Bool) (left right : String)
    (bindings : List (Binding (Option String))) (verbose : Bool) :
    Transform.ofTemplates checked left right bindings verbose =
      (Transform.ofTemplates checked left right bindings false).map
        fun transform => { transform with verbose := verbose } := by
  cases parsed : Pattern.parse left bindings with
  | error failure =>
      rw [Transform.ofTemplates_of_parse_eq_error parsed, Transform.ofTemplates_of_parse_eq_error parsed]
      rfl
  | ok pattern =>
      cases derives : pattern.derive right with
      | error failure =>
          rw [Transform.ofTemplates_of_derive_eq_error parsed derives,
            Transform.ofTemplates_of_derive_eq_error parsed derives]
          rfl
      | ok derived =>
          rw [Transform.ofTemplates_of_derive_eq_ok parsed derives,
            Transform.ofTemplates_of_derive_eq_ok parsed derives, Transform.check, Transform.check]
          dsimp only
          split
          · split <;> rfl
          · rfl

/-- Reporting rewrites does not change what a text is rewritten to, nor
whether it can be.  The direction decides which side is searched, and the flag
is no part of either. -/
theorem rewriteText_verbose (text left right : String) (expressions : List (Binding (Option String)))
    (checkReversible reverse verbose : Bool) :
    (rewriteText text left right expressions checkReversible reverse verbose).map Prod.fst =
      (rewriteText text left right expressions checkReversible reverse false).map Prod.fst := by
  rw [rewriteText, ofTemplates_verbose, rewriteText]
  cases Transform.ofTemplates checkReversible left right expressions false with
  | error failure => rfl
  | ok transform =>
      cases reverse with
      | false =>
          change (transform.replace text >>= fun rewritten => _).map Prod.fst =
            (transform.replace text >>= fun rewritten => _).map Prod.fst
          cases transform.replace text <;> rfl
      | true =>
          change (transform.reverse.replace text >>= fun rewritten => _).map Prod.fst =
            (transform.reverse.replace text >>= fun rewritten => _).map Prod.fst
          cases transform.reverse.replace text <;> rfl

/-- The end of an order that has been carried out with this outcome, if it has
been reported like that. -/
def endingOf (report : String) : Outcome String -> Ending
  | .ok output => .success output report
  | .error failure => .failed failure

/-- The result alone decides how carrying out an order ends, but for what is
reported. -/
theorem exists_run_carryOut (ask : String -> StateM World (Outcome String)) (world : World)
    (read : Arguments) (values expressions : List (Binding String)) (text : String) :
    ∃ report, ((carryOut ask ⟨values, expressions, read⟩ text).run world).1 =
      endingOf report (result ask world read values expressions text) := by
  rw [carryOut, result]
  cases read.templates with
  | none =>
      refine ⟨"", ?_⟩
      dsimp only
      rw [StateT.run_bind]
      cases (Filling.fill ask text values).run.run world with
      | mk outcome after => cases outcome <;> rfl
  | some templates =>
      rcases templates with ⟨left, right⟩
      have same := rewriteText_verbose text left right (givenExpressions expressions)
        read.checkReversible read.reverse read.verbose
      dsimp only
      rw [← same]
      cases rewriteText text left right (givenExpressions expressions) read.checkReversible
        read.reverse read.verbose with
      | error failure => exact ⟨"", rfl⟩
      | ok rewritten => exact ⟨rewritten.2, rfl⟩

theorem failed_silent (failure : Failure) :
    (Ending.failed failure).exitCode = Ending.failureCode ∧ (Ending.failed failure).output = "" := by
  cases failure <;> exact ⟨rfl, rfl⟩

/-! ## Running -/

variable {mistake : Mistake}

theorem run_of_order_eq_error {ending : Ending} (stopped : order arguments = .error ending) :
    (run (consoleWith files ask) arguments).run world = (ending, world) := by
  rw [run, stopped]
  rfl

theorem run_of_understood (understood : Understood arguments read values expressions) :
    (run (consoleWith files ask) arguments).run world =
      match textOf read.file (files read.file) with
      | .error ending => (ending, world)
      | .ok text => (carryOut ask ⟨values, expressions, read⟩ text).run world := by
  rw [run, order_of_understood understood]
  change (match textOf read.file (files read.file) with
    | .error ending => pure ending
    | .ok text => carryOut ask ⟨values, expressions, read⟩ text : StateM World Ending).run world = _
  cases textOf read.file (files read.file) <;> rfl

/-- A mistake ends the run with its message, and nobody has been asked: the
world is as it was. -/
theorem Mistaken.run_eq (mistaken : Mistaken files arguments mistake)
    (ask : String -> StateM World (Outcome String)) (world : World) :
    (run (consoleWith files ask) arguments).run world = (.mistake mistake.message, world) := by
  cases mistaken with
  | arguments halted why =>
      rw [run_of_order_eq_error (order_of_halted halted), halted_of_problem why]
  | assignment parsed listed before malformed =>
      refine run_of_order_eq_error (order_of_parseAll_eq_error parsed ?_)
      rw [listed]
      exact parseAll_of_malformed before malformed
  | noTemplates parsed assignments absent needed =>
      rcases exists_parseAll fun text member => assignments text (List.mem_append_left _ member) with
        ⟨values, first⟩
      rcases exists_parseAll fun text member => assignments text (List.mem_append_right _ member) with
        ⟨expressions, second⟩
      exact run_of_order_eq_error (order_of_wantsTemplates parsed first second
        (wantsTemplates_iff.mpr ⟨absent, needed⟩))
  | noFile understood missing =>
      rw [run_of_understood understood, textOf_missing missing]

theorem Delivers.run_eq (delivers : Delivers files ask world arguments output) :
    ∃ report, ((run (consoleWith files ask) arguments).run world).1 = .success output report := by
  cases delivers with
  | help halted =>
      refine ⟨"", ?_⟩
      rw [run_of_order_eq_error (order_of_halted halted)]
      rfl
  | version halted =>
      refine ⟨"", ?_⟩
      rw [run_of_order_eq_error (order_of_halted halted)]
      rfl
  | @result read values expressions text _ understood readable done =>
      rcases exists_run_carryOut ask world read values expressions text with ⟨report, carried⟩
      refine ⟨report, ?_⟩
      rw [run_of_understood understood, readable]
      dsimp only
      rw [carried, done]
      rfl

theorem Fails.run_eq (fails : Fails files ask world arguments) :
    ((run (consoleWith files ask) arguments).run world).1.exitCode = Ending.failureCode ∧
      ((run (consoleWith files ask) arguments).run world).1.output = "" := by
  cases fails with
  | blocked understood blocked =>
      rw [run_of_understood understood, blocked]
      exact ⟨rfl, rfl⟩
  | undecodable understood present faulty =>
      rw [run_of_understood understood, present, textOf, faulty]
      exact ⟨rfl, rfl⟩
  | @result read values expressions text failure understood readable failed =>
      rcases exists_run_carryOut ask world read values expressions text with ⟨report, carried⟩
      rw [run_of_understood understood, readable]
      dsimp only
      rw [carried, failed]
      exact failed_silent failure

/-- The arguments ask for a text, or they are understood, or there is a
mistake, whatever files there are. -/
theorem arguments_cases (arguments : List String) :
    parseArguments arguments = .error .help ∨ parseArguments arguments = .error .version ∨
      (∃ read values expressions, Understood arguments read values expressions) ∨
        ∃ mistake, forall files, Mistaken files arguments mistake := by
  cases parsed : parseArguments arguments with
  | error halt =>
      cases why : halt.problem? with
      | none =>
          cases halt with
          | help => exact .inl rfl
          | version => exact .inr (.inl rfl)
          | _ => cases why
      | some problem =>
          exact .inr (.inr (.inr ⟨.arguments problem, fun _ => .arguments parsed why⟩))
  | ok read =>
      refine .inr (.inr ?_)
      rcases assignments_cases (read.values ++ read.expressions) with
        each | ⟨front, text, back, listed, before, malformed⟩
      · by_cases wants : wantsTemplates read = true
        · rcases wantsTemplates_iff.mp wants with ⟨absent, needed⟩
          exact .inr ⟨.noTemplates, fun _ => .noTemplates parsed each absent needed⟩
        · rcases exists_parseAll fun text member => each text (List.mem_append_left _ member) with
            ⟨values, first⟩
          rcases exists_parseAll fun text member => each text (List.mem_append_right _ member) with
            ⟨expressions, second⟩
          refine .inl ⟨read, values, expressions, parsed, first, second, fun absent => ?_⟩
          simpa [absent] using mt wantsTemplates_iff.mpr wants
      · exact .inr ⟨.assignment text, fun _ => .assignment parsed listed before malformed⟩

/-- There is a mistake, or else the command succeeds or fails.  That these
exclude one another is seen from the exit codes. -/
theorem run_cases (files : String -> ReadResult) (ask : String -> StateM World (Outcome String))
    (world : World) (arguments : List String) :
    (∃ mistake, Mistaken files arguments mistake) ∨
      (∃ output, Delivers files ask world arguments output) ∨ Fails files ask world arguments := by
  rcases arguments_cases arguments with
    halted | halted | ⟨read, values, expressions, understood⟩ | ⟨mistake, mistaken⟩
  · exact .inr (.inl ⟨_, .help halted⟩)
  · exact .inr (.inl ⟨_, .version halted⟩)
  · rcases textOf_cases ask world understood with
      missing | fails | ⟨text, readable⟩
    · exact .inl ⟨_, .noFile understood missing⟩
    · exact .inr (.inr fails)
    · cases outcome : result ask world read values expressions text with
      | error failure => exact .inr (.inr (.result understood readable outcome))
      | ok output => exact .inr (.inl ⟨output, .result understood readable outcome⟩)
  · exact .inl ⟨mistake, mistaken files⟩

/-- The command ends in one of three ways.  With exit code zero it ends if and
only if it succeeds, and then its output is what it delivers: one of the texts
asked for, or exactly the filled or rewritten text, whether or not rewrites
are reported.  With exit code two it ends if and only if there is a mistake,
and then with the message of the first there is, before anybody is asked.
With exit code one it ends if and only if it fails.  Without success nothing
is written to the output. -/
theorem run_ends (files : String -> ReadResult) (ask : String -> StateM World (Outcome String))
    (world : World) (arguments : List String) :
    let ending := ((run (consoleWith files ask) arguments).run world).1
    (forall output, Delivers files ask world arguments output ↔
      ending.exitCode = 0 ∧ ending.output = output) ∧
    (ending.exitCode = Ending.mistakeCode ↔ ∃ mistake, Mistaken files arguments mistake) ∧
    (forall mistake, Mistaken files arguments mistake ->
      (run (consoleWith files ask) arguments).run world = (.mistake mistake.message, world)) ∧
    (ending.exitCode = Ending.failureCode ↔ Fails files ask world arguments) ∧
    (ending.exitCode ≠ 0 -> ending.output = "") ∧
    (ending.exitCode = 0 ∨ ending.exitCode = Ending.failureCode ∨
      ending.exitCode = Ending.mistakeCode) := by
  intro ending
  have succeeds : forall output, Delivers files ask world arguments output ->
      ending.exitCode = 0 ∧ ending.output = output := by
    intro output delivers
    rcases delivers.run_eq with ⟨report, same⟩
    exact ⟨congrArg Ending.exitCode same, congrArg Ending.output same⟩
  have errs : forall mistake, Mistaken files arguments mistake ->
      ending.exitCode = Ending.mistakeCode ∧ ending.output = "" := by
    intro mistake mistaken
    have same : ending = .mistake mistake.message := congrArg Prod.fst (mistaken.run_eq ask world)
    exact ⟨congrArg Ending.exitCode same, congrArg Ending.output same⟩
  have fails : Fails files ask world arguments ->
      ending.exitCode = Ending.failureCode ∧ ending.output = "" := Fails.run_eq
  have cases := run_cases files ask world arguments
  refine ⟨fun output => ⟨succeeds output, ?_⟩, ⟨fun code => ?_, ?_⟩,
    fun mistake mistaken => mistaken.run_eq ask world,
    ⟨fun code => ?_, fun failing => (fails failing).1⟩, fun code => ?_, ?_⟩
  · rintro ⟨code, rfl⟩
    rcases cases with ⟨mistake, mistaken⟩ | ⟨output, delivers⟩ | failing
    · exact absurd (code.symm.trans (errs mistake mistaken).1) (by decide)
    · exact (succeeds output delivers).2 ▸ delivers
    · exact absurd (code.symm.trans (fails failing).1) (by decide)
  · rcases cases with mistaken | ⟨output, delivers⟩ | failing
    · exact mistaken
    · exact absurd (code.symm.trans (succeeds output delivers).1) (by decide)
    · exact absurd (code.symm.trans (fails failing).1) (by decide)
  · rintro ⟨mistake, mistaken⟩
    exact (errs mistake mistaken).1
  · rcases cases with ⟨mistake, mistaken⟩ | ⟨output, delivers⟩ | failing
    · exact absurd (code.symm.trans (errs mistake mistaken).1) (by decide)
    · exact absurd (code.symm.trans (succeeds output delivers).1) (by decide)
    · exact failing
  · rcases cases with ⟨mistake, mistaken⟩ | ⟨output, delivers⟩ | failing
    · exact (errs mistake mistaken).2
    · exact absurd (succeeds output delivers).1 code
    · exact (fails failing).2
  · rcases cases with ⟨mistake, mistaken⟩ | ⟨output, delivers⟩ | failing
    · exact .inr (.inr (errs mistake mistaken).1)
    · exact .inl (succeeds output delivers).1
    · exact .inr (.inl (fails failing).1)

/-! ## Running in a folder -/

/-- In a folder the command is run with its files, and whoever is asked
answers from the input. -/
theorem runIn_eq (folder : Folder) (input : String) (arguments : List String) :
    runIn folder input arguments =
      let ended := (run (consoleWith folder.read Filling.Terminal.ask) arguments).run
        ⟨Text.normalizeLineEnds input.toList, ""⟩
      { ended.1 with errors := ended.2.shown ++ ended.1.errors } :=
  rfl

/-- The message of a mistake is all that is ever written. -/
theorem Mistaken.runIn_eq {folder : Folder} (mistaken : Mistaken folder.read arguments mistake)
    (input : String) : runIn folder input arguments = .mistake mistake.message := by
  rw [CommandLine.runIn_eq, mistaken.run_eq]
  exact congrArg (Ending.mk _ _ · _) String.empty_append

example : runIn ⟨[]⟩ "Ann\n" ["absent.txt", "-b", "who=Bob"] =
    .mistake "error: file `absent.txt` not found" := by
  decide +kernel

end CommandLine
end Stencil

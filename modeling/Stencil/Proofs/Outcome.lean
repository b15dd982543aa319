namespace Except

/-!
Succeeding computations.  A computation made of several succeeds exactly when
its parts do, and two computations agree in a relation when it holds between
their values, should both succeed.
-/

variable {Error First Second Third Fourth : Type}

theorem bind_eq_ok_iff {outcome : Except Error First} {next : First -> Except Error Second}
    {value : Second} :
    outcome >>= next = .ok value ↔ ∃ middle, outcome = .ok middle ∧ next middle = .ok value := by
  cases outcome with
  | error failure =>
      constructor
      · intro impossible
        cases impossible
      · rintro ⟨_, impossible, _⟩
        cases impossible
  | ok middle =>
      constructor
      · exact fun done => ⟨middle, rfl, done⟩
      · rintro ⟨_, same, done⟩
        cases same
        exact done

theorem bind_eq_error_iff {outcome : Except Error First} {next : First -> Except Error Second}
    {failure : Error} :
    outcome >>= next = .error failure ↔
      outcome = .error failure ∨ ∃ middle, outcome = .ok middle ∧ next middle = .error failure := by
  cases outcome with
  | error other =>
      constructor
      · intro failed
        cases failed
        exact .inl rfl
      · rintro (failed | ⟨_, impossible, _⟩)
        · cases failed
          rfl
        · cases impossible
  | ok middle =>
      constructor
      · exact fun failed => .inr ⟨middle, rfl, failed⟩
      · rintro (impossible | ⟨_, same, failed⟩)
        · cases impossible
        · cases same
          exact failed

theorem map_eq_ok_iff {outcome : Except Error First} {convert : First -> Second}
    {value : Second} :
    outcome.map convert = .ok value ↔ ∃ middle, outcome = .ok middle ∧ convert middle = value := by
  cases outcome <;> simp [Except.map]

theorem map_eq_error_iff {outcome : Except Error First} {convert : First -> Second}
    {failure : Error} : outcome.map convert = .error failure ↔ outcome = .error failure := by
  cases outcome <;> simp [Except.map]

/-- Where each computation is known to succeed, all of them do, one after the
other. -/
theorem mapM_eq_ok_map {make : First -> Except Error Second} {made : First -> Second}
    {items : List First} (each : forall item, item ∈ items -> make item = .ok (made item)) :
    items.mapM make = .ok (items.map made) := by
  induction items with
  | nil => rfl
  | cons item rest inductiveHypothesis =>
      have others := inductiveHypothesis fun other member =>
        each other (List.mem_cons_of_mem _ member)
      rw [List.mapM_cons, each item List.mem_cons_self, others]
      rfl

theorem mapError_ok {value : Third} {convert : First -> Second} :
    (.ok value : Except First Third).mapError convert = .ok value := rfl

theorem mapError_error {cause : First} {convert : First -> Second} :
    (.error cause : Except First Third).mapError convert = .error (convert cause) := rfl

theorem mapError_eq_ok_iff {outcome : Except First Third} {convert : First -> Second}
    {value : Third} : outcome.mapError convert = .ok value ↔ outcome = .ok value := by
  cases outcome with
  | error failure =>
      constructor
      · intro impossible
        cases impossible
      · intro impossible
        cases impossible
  | ok middle =>
      constructor
      · intro done
        cases done
        rfl
      · intro done
        cases done
        rfl

theorem mapError_eq_error_iff {outcome : Except First Third} {convert : First -> Second}
    {failure : Second} :
    outcome.mapError convert = .error failure ↔
      ∃ cause, outcome = .error cause ∧ convert cause = failure := by
  cases outcome <;> simp [mapError_ok, mapError_error]

theorem toOption_eq_some_iff {outcome : Except Error First} {value : First} :
    outcome.toOption = some value ↔ outcome = .ok value := by
  cases outcome <;> simp [Except.toOption]

/-- An outcome that passes a check is a success.  Used where the outcome of a
closed term is evaluated. -/
theorem exists_ok_of_any {outcome : Except Error First} {check : First -> Bool}
    (passed : outcome.toOption.any check = true) :
    ∃ value, outcome = .ok value ∧ check value = true := by
  cases outcome with
  | error failure => cases passed
  | ok value => exact ⟨value, rfl, passed⟩

theorem exists_ok_of_isSome {outcome : Except Error First}
    (succeeds : outcome.toOption.isSome = true) : ∃ value, outcome = .ok value := by
  cases outcome with
  | error failure => cases succeeds
  | ok value => exact ⟨value, rfl⟩

/-- The relation holds between the values, should both computations
succeed. -/
def Agree (related : First -> Second -> Prop) (left : Except Error First)
    (right : Except Error Second) : Prop :=
  forall first second, left = .ok first -> right = .ok second -> related first second

namespace Agree

variable {related : First -> Second -> Prop} {outcomes : Third -> Fourth -> Prop}

theorem ok {first : First} {second : Second} (holds : related first second) :
    Agree related (.ok first : Except Error First) (.ok second) := by
  intro _ _ left right
  cases left
  cases right
  exact holds

theorem errorLeft {failure : Error} {right : Except Error Second} :
    Agree related (.error failure) right :=
  fun _ _ impossible => nomatch impossible

theorem errorRight {failure : Error} {left : Except Error First} :
    Agree related left (.error failure) :=
  fun _ _ _ impossible => nomatch impossible

theorem ite {condition : Prop} [Decidable condition] {left otherLeft : Except Error First}
    {right otherRight : Except Error Second} (positive : Agree related left right)
    (negative : Agree related otherLeft otherRight) :
    Agree related (if condition then left else otherLeft)
      (if condition then right else otherRight) := by
  split
  · exact positive
  · exact negative

theorem bind {left : Except Error First} {right : Except Error Second}
    {leftNext : First -> Except Error Third} {rightNext : Second -> Except Error Fourth}
    (agree : Agree related left right)
    (next : forall first second, related first second ->
      Agree outcomes (leftNext first) (rightNext second)) :
    Agree outcomes (left >>= leftNext) (right >>= rightNext) := by
  intro _ _ leftDone rightDone
  obtain ⟨first, leftFirst, leftThen⟩ := bind_eq_ok_iff.mp leftDone
  obtain ⟨second, rightFirst, rightThen⟩ := bind_eq_ok_iff.mp rightDone
  exact next first second (agree first second leftFirst rightFirst) _ _ leftThen rightThen

theorem map {left : Except Error First} {right : Except Error Second} {leftConvert : First -> Third}
    {rightConvert : Second -> Fourth} (agree : Agree related left right)
    (next : forall first second, related first second ->
      outcomes (leftConvert first) (rightConvert second)) :
    Agree outcomes (left.map leftConvert) (right.map rightConvert) := by
  intro _ _ leftDone rightDone
  obtain ⟨first, leftFirst, rfl⟩ := map_eq_ok_iff.mp leftDone
  obtain ⟨second, rightFirst, rfl⟩ := map_eq_ok_iff.mp rightDone
  exact next first second (agree first second leftFirst rightFirst)

end Agree

/-- Both computations succeed, with values of which the relation holds, or
both fail. -/
inductive Concur (related : First -> Second -> Prop) :
    Except Error First -> Except Error Second -> Prop where
  | ok {first : First} {second : Second} (holds : related first second) :
      Concur related (.ok first) (.ok second)
  | error {failure other : Error} : Concur related (.error failure) (.error other)

namespace Concur

variable {related : First -> Second -> Prop} {outcomes : Third -> Fourth -> Prop}

theorem agree {left : Except Error First} {right : Except Error Second}
    (concur : Concur related left right) : Agree related left right := by
  cases concur with
  | ok holds => exact .ok holds
  | error => exact .errorLeft

/-- Where the one computation succeeds the other does, with a related
value. -/
theorem follows {left : Except Error First} {right : Except Error Second} {first : First}
    (concur : Concur related left right) (done : left = .ok first) :
    ∃ second, right = .ok second ∧ related first second := by
  cases concur with
  | ok holds =>
      cases done
      exact ⟨_, rfl, holds⟩
  | error => cases done

/-- A computation concurs with itself in equality. -/
theorem same (outcome : Except Error First) : Concur Eq outcome outcome := by
  cases outcome with
  | error failure => exact .error
  | ok value => exact .ok rfl

theorem ite {condition : Prop} [Decidable condition] {left otherLeft : Except Error First}
    {right otherRight : Except Error Second} (positive : Concur related left right)
    (negative : Concur related otherLeft otherRight) :
    Concur related (if condition then left else otherLeft)
      (if condition then right else otherRight) := by
  split
  · exact positive
  · exact negative

theorem bind {left : Except Error First} {right : Except Error Second}
    {leftNext : First -> Except Error Third} {rightNext : Second -> Except Error Fourth}
    (concur : Concur related left right)
    (next : forall first second, related first second ->
      Concur outcomes (leftNext first) (rightNext second)) :
    Concur outcomes (left >>= leftNext) (right >>= rightNext) := by
  cases concur with
  | ok holds => exact next _ _ holds
  | error => exact .error

theorem map {left : Except Error First} {right : Except Error Second} {leftConvert : First -> Third}
    {rightConvert : Second -> Fourth} (concur : Concur related left right)
    (next : forall first second, related first second ->
      outcomes (leftConvert first) (rightConvert second)) :
    Concur outcomes (left.map leftConvert) (right.map rightConvert) := by
  cases concur with
  | ok holds => exact .ok (next _ _ holds)
  | error => exact .error

end Concur

/-- The value has the property, should the computation succeed.  Nothing is
said of a failure. -/
def Yields (holds : First -> Prop) (outcome : Except Error First) : Prop :=
  forall value, outcome = .ok value -> holds value

namespace Yields

variable {holds : First -> Prop}

theorem ok {value : First} (sound : holds value) : Yields holds (.ok value : Except Error First) := by
  intro _ done
  cases done
  exact sound

theorem error {failure : Error} : Yields holds (.error failure) :=
  fun _ impossible => nomatch impossible

theorem ite {condition : Prop} [Decidable condition] {outcome other : Except Error First}
    (positive : condition -> Yields holds outcome) (negative : Yields holds other) :
    Yields holds (if condition then outcome else other) := by
  split
  · exact positive ‹_›
  · exact negative

theorem map {outcome : Except Error First} {convert : First -> Second} {sound : Second -> Prop}
    (all : forall value, sound (convert value)) : Yields sound (outcome.map convert) := by
  intro _ done
  rcases map_eq_ok_iff.mp done with ⟨value, _, rfl⟩
  exact all value

end Yields

end Except

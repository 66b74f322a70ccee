namespace Tolerance

/-!
# What an outcome says about its steps

A sequence of steps succeeds exactly if each of them does, each from where the
one before it ended; a guarded one may succeed through its handler, from where
the failure left it.  What an operation guarantees is said of both its outcomes:
of a value and of a failure, each with the state that it leaves.
-/

namespace Outcome

variable {Failure State Value Result : Type}

/-- Two steps give a value exactly if both of them do. -/
theorem bind_eq_ok_iff
    {first : Except Failure Value}
    {next : Value → Except Failure Result}
    {result : Result} :
    first >>= next = .ok result ↔
      ∃ value, first = .ok value ∧ next value = .ok result := by
  cases first with
  | error failure =>
      constructor
      · intro same
        cases same
      · rintro ⟨_, same, _⟩
        cases same
  | ok value =>
      constructor
      · intro same
        exact ⟨value, rfl, same⟩
      · rintro ⟨_, same, later⟩
        cases same
        exact later

/-- Two steps fail exactly if the first one does, or the second one after it. -/
theorem bind_eq_error_iff
    {first : Except Failure Value}
    {next : Value → Except Failure Result}
    {failure : Failure} :
    first >>= next = .error failure ↔
      first = .error failure ∨
        ∃ value, first = .ok value ∧ next value = .error failure := by
  cases first with
  | error other =>
      constructor
      · intro same
        cases same
        exact Or.inl rfl
      · rintro (same | ⟨_, same, _⟩)
        · cases same
          rfl
        · cases same
  | ok value =>
      constructor
      · intro same
        exact Or.inr ⟨value, rfl, same⟩
      · rintro (same | ⟨_, same, later⟩)
        · cases same
        · cases same
          exact later

/-- Two answers give the same value, or they fail for reasons of one kind. -/
inductive Agree (sameKind : Failure → Failure → Prop) :
    Except Failure Value → Except Failure Value → Prop where
  | value (value : Value) : Agree sameKind (.ok value) (.ok value)
  | failure (first second : Failure) (same : sameKind first second) :
      Agree sameKind (.error first) (.error second)

theorem Agree.refl
    {sameKind : Failure → Failure → Prop}
    (reflexive : ∀ failure, sameKind failure failure)
    (answer : Except Failure Value) :
    Agree sameKind answer answer := by
  cases answer with
  | ok value => exact .value value
  | error failure => exact .failure failure failure (reflexive failure)

theorem Agree.eq_ok_iff
    {sameKind : Failure → Failure → Prop}
    {first second : Except Failure Value}
    {value : Value}
    (agree : Agree sameKind first second) :
    second = .ok value ↔ first = .ok value := by
  cases agree with
  | value _ => exact Iff.rfl
  | failure _ _ _ => simp

/-- Where one answer fails the other one does too, and for a reason of the same kind. -/
theorem Agree.exists_eq_error
    {sameKind : Failure → Failure → Prop}
    {failure : Failure}
    {second : Except Failure Value}
    (agree : Agree sameKind (.error failure) second) :
    ∃ other, second = .error other ∧ sameKind failure other := by
  cases agree with
  | failure _ other same => exact ⟨other, rfl, same⟩

/-- A value is given exactly if a condition holds, and then it is as promised. -/
inductive GivenIff (condition : Prop) (promise : Value → Prop) :
    Except Failure Value → Prop where
  | value (value : Value) (holds : condition) (kept : promise value) :
      GivenIff condition promise (.ok value)
  | failure (failure : Failure) (fails : ¬condition) :
      GivenIff condition promise (.error failure)

namespace GivenIff

variable {condition otherCondition : Prop}
  {promise otherPromise : Value → Prop}
  {answer : Except Failure Value}

theorem imp
    (given : GivenIff condition promise answer)
    (sameCondition : condition ↔ otherCondition)
    (weaker : ∀ value, promise value → otherPromise value) :
    GivenIff otherCondition otherPromise answer := by
  cases given with
  | value value holds kept =>
      exact .value value (sameCondition.mp holds) (weaker value kept)
  | failure failure fails =>
      exact .failure failure fun holds => fails (sameCondition.mpr holds)

theorem pure
    {value : Value}
    (kept : promise value) :
    GivenIff True promise (pure value : Except Failure Value) :=
  .value value trivial kept

/-- Two steps need both conditions. -/
theorem bind
    {nextPromise : Result → Prop}
    {next : Value → Except Failure Result}
    (given : GivenIff condition promise answer)
    (nextGiven :
      ∀ value, promise value → GivenIff otherCondition nextPromise (next value)) :
    GivenIff (condition ∧ otherCondition) nextPromise (answer >>= next) := by
  cases given with
  | value value holds kept =>
      exact
        (nextGiven value kept).imp ⟨fun other => ⟨holds, other⟩, And.right⟩
          fun _ => id
  | failure failure fails =>
      exact .failure failure fun both => fails both.1

/-- A last step that cannot fail needs nothing more. -/
theorem map
    {nextPromise : Result → Prop}
    {change : Value → Result}
    (given : GivenIff condition promise answer)
    (kept : ∀ value, promise value → nextPromise (change value)) :
    GivenIff condition nextPromise
      (do let value ← answer; return change value) :=
  (given.bind fun value promised => .pure (kept value promised)).imp
    (and_iff_left trivial) fun _ => id

/-- What becomes of a failure does not matter. -/
theorem mapError
    {OtherFailure : Type}
    (given : GivenIff condition promise answer)
    (change : Failure → OtherFailure) :
    GivenIff condition promise (answer.mapError change) := by
  cases given with
  | value value holds kept => exact .value value holds kept
  | failure failure fails => exact .failure (change failure) fails

/-- The value that is given is the answer. -/
theorem self
    (given : GivenIff condition promise answer) :
    GivenIff condition (fun value => answer = .ok value) answer := by
  cases given with
  | value value holds _ => exact .value value holds rfl
  | failure failure fails => exact .failure failure fails

theorem exists_eq_ok_iff
    (given : GivenIff condition promise answer) :
    (∃ value, answer = .ok value) ↔ condition := by
  cases given with
  | value value holds _ => exact ⟨fun _ => holds, fun _ => ⟨value, rfl⟩⟩
  | failure failure fails => simpa using fails

theorem of_eq_ok
    {value : Value}
    (given : GivenIff condition promise answer)
    (same : answer = .ok value) :
    promise value := by
  cases given with
  | value _ _ kept => exact Except.ok.inj same ▸ kept
  | failure _ _ => cases same

end GivenIff

/-- Two operations succeed exactly if both of them do, one after the other. -/
theorem run_bind_eq_ok_iff
    {first : EStateM Failure State Value}
    {next : Value → EStateM Failure State Result}
    {before after : State}
    {result : Result} :
    (first >>= next).run before = .ok result after ↔
      ∃ value between,
        first.run before = .ok value between ∧
          (next value).run between = .ok result after := by
  rw [EStateM.run_bind]
  cases first.run before with
  | error failure between =>
      constructor
      · intro same
        cases same
      · rintro ⟨_, _, same, _⟩
        cases same
  | ok value between =>
      constructor
      · intro same
        exact ⟨value, between, rfl, same⟩
      · rintro ⟨_, _, same, later⟩
        cases same
        exact later

/-- After a first step that succeeded the second one decides. -/
theorem run_bind_of_ok
    {first : EStateM Failure State Value}
    {next : Value → EStateM Failure State Result}
    {before between : State}
    {value : Value}
    (succeeded : first.run before = .ok value between) :
    (first >>= next).run before = (next value).run between := by
  rw [EStateM.run_bind, succeeded]

/-- After a first step that failed there is no second one. -/
theorem run_bind_of_error
    {first : EStateM Failure State Value}
    {before after : State}
    {failure : Failure}
    (failed : first.run before = .error failure after)
    (next : Value → EStateM Failure State Result) :
    (first >>= next).run before = .error failure after := by
  rw [EStateM.run_bind, failed]

/-- A guarded operation ends as it does by itself, or else as its handler does. -/
theorem run_tryCatch
    (guarded : EStateM Failure State Value)
    (handler : Failure → EStateM Failure State Value)
    (before : State) :
    (tryCatch guarded handler).run before =
      match guarded.run before with
      | .ok value between => .ok value between
      | .error failure between => (handler failure).run between := by
  change EStateM.tryCatch guarded handler before = _
  delta EStateM.tryCatch
  rw [show guarded before = guarded.run before from rfl]
  cases guarded.run before <;> rfl

/--
A guarded operation succeeds if it does by itself, or else if its handler
does.
-/
theorem run_tryCatch_eq_ok_iff
    {guarded : EStateM Failure State Value}
    {handler : Failure → EStateM Failure State Value}
    {before after : State}
    {value : Value} :
    (tryCatch guarded handler).run before = .ok value after ↔
      guarded.run before = .ok value after ∨
        ∃ failure between,
          guarded.run before = .error failure between ∧
            (handler failure).run between = .ok value after := by
  rw [run_tryCatch]
  cases guarded.run before with
  | ok other between =>
      simp
  | error failure between =>
      constructor
      · intro success
        exact Or.inr ⟨failure, between, rfl, success⟩
      · rintro (success | ⟨_, _, same, success⟩)
        · cases success
        · cases same
          exact success

/-- Whether an operation ended with a value. -/
def isOk : EStateM.Result Failure State Value → Bool
  | .ok _ _ => true
  | .error _ _ => false

/-- An operation that ended with a value left some state. -/
theorem exists_eq_ok_of_isOk
    {outcome : EStateM.Result Failure State Value}
    (succeeded : isOk outcome = true) :
    ∃ value after, outcome = .ok value after := by
  cases outcome with
  | ok value after =>
      exact ⟨value, after, rfl⟩
  | error failure after =>
      cases succeeded

/-- What holds of the outcome of an operation, be it a value or a failure. -/
def Guarantees
    (operation : EStateM Failure State Value)
    (before : State)
    (returns : Value → State → Prop)
    (fails : Failure → State → Prop) :
    Prop :=
  match operation.run before with
  | .ok value after => returns value after
  | .error failure after => fails failure after

namespace Guarantees

variable {operation : EStateM Failure State Value}
  {before after : State}
  {returns weakerReturns : Value → State → Prop}
  {fails weakerFails : Failure → State → Prop}

/-- Its outcome is what an operation guarantees. -/
theorem self
    (operation : EStateM Failure State Value)
    (before : State) :
    Guarantees operation before
      (fun value after => operation.run before = .ok value after)
      (fun failure after => operation.run before = .error failure after) := by
  unfold Guarantees
  split
  · next ran => exact ran
  · next ran => exact ran

theorem of_run
    {value : Value}
    (ran : operation.run before = .ok value after)
    (returned : returns value after) :
    Guarantees operation before returns fails := by
  simpa [Guarantees, ran] using returned

theorem of_run_eq_ok
    {value : Value}
    (guarantees : Guarantees operation before returns fails)
    (ran : operation.run before = .ok value after) :
    returns value after := by
  simpa [Guarantees, ran] using guarantees

theorem of_run_eq_error
    {failure : Failure}
    (guarantees : Guarantees operation before returns fails)
    (ran : operation.run before = .error failure after) :
    fails failure after := by
  simpa [Guarantees, ran] using guarantees

theorem imp
    (guarantees : Guarantees operation before returns fails)
    (onValue : ∀ value after, returns value after → weakerReturns value after)
    (onFailure :
      ∀ failure after, fails failure after → weakerFails failure after) :
    Guarantees operation before weakerReturns weakerFails := by
  unfold Guarantees at guarantees ⊢
  split at guarantees
  · exact onValue _ _ guarantees
  · exact onFailure _ _ guarantees

/-- The second step starts where the first one ended, unless that one failed. -/
theorem bind
    {next : Value → EStateM Failure State Result}
    {nextReturns : Result → State → Prop}
    (first :
      Guarantees operation before
        (fun value between =>
          Guarantees (next value) between nextReturns fails)
        fails) :
    Guarantees (operation >>= next) before nextReturns fails := by
  unfold Guarantees at first
  rw [Guarantees, EStateM.run_bind]
  cases ran : operation.run before with
  | error failure between =>
      simpa [ran] using first
  | ok value between =>
      simpa [ran, Guarantees] using first

/-- What comes next is asked with the present state. -/
theorem get_bind
    {next : State → EStateM Failure State Result}
    {nextReturns : Result → State → Prop}
    (second : Guarantees (next before) before nextReturns fails) :
    Guarantees (get >>= next) before nextReturns fails :=
  bind second

/-- What comes next starts with the changed state. -/
theorem modify_bind
    {change : State → State}
    {next : Unit → EStateM Failure State Result}
    {nextReturns : Result → State → Prop}
    (second : Guarantees (next ()) (change before) nextReturns fails) :
    Guarantees (modify change >>= next) before nextReturns fails :=
  bind second

/-- The handler starts where the failure left the state. -/
theorem tryCatch
    {handler : Failure → EStateM Failure State Value}
    (guarded :
      Guarantees operation before returns
        (fun failure between =>
          Guarantees (handler failure) between returns fails)) :
    Guarantees (tryCatch operation handler) before returns fails := by
  unfold Guarantees at guarded ⊢
  rw [run_tryCatch]
  cases ran : operation.run before with
  | ok value between =>
      simpa [ran] using guarded
  | error failure between =>
      simpa [ran] using guarded

end Guarantees

/-- A relation between states to which any step may add something, or nothing. -/
class Accumulates (relation : State → State → Prop) : Prop where
  refl : ∀ state, relation state state
  trans :
    ∀ {first second third},
      relation first second → relation second third → relation first third

/--
An operation changes the state no further than a relation allows, be it that it
gives a value or that it fails.
-/
def Within
    (relation : State → State → Prop)
    (operation : EStateM Failure State Value)
    (before : State)
    (returns : Value → Prop)
    (fails : Failure → Prop) :
    Prop :=
  Guarantees operation before
    (fun value after => returns value ∧ relation before after)
    (fun failure after => fails failure ∧ relation before after)

namespace Within

variable {relation : State → State → Prop}
  {operation : EStateM Failure State Value}
  {before between : State}
  {returns weakerReturns : Value → Prop}
  {fails weakerFails : Failure → Prop}

theorem imp
    (within : Within relation operation before returns fails)
    (onValue : ∀ value, returns value → weakerReturns value)
    (onFailure : ∀ failure, fails failure → weakerFails failure) :
    Within relation operation before weakerReturns weakerFails :=
  Guarantees.imp within (fun value _ both => both.imp_left (onValue value))
    fun failure _ both => both.imp_left (onFailure failure)

/-- The value and the failure do not matter, only the change does. -/
theorem anyhow
    (within : Within relation operation before returns fails) :
    Within relation operation before (fun _ => True) (fun _ => True) :=
  within.imp (fun _ _ => trivial) fun _ _ => trivial

/-- A change that is allowed is allowed after another one too. -/
theorem after
    [Accumulates relation]
    (earlier : relation before between)
    (within : Within relation operation between returns fails) :
    Guarantees operation between
      (fun value after => returns value ∧ relation before after)
      (fun failure after => fails failure ∧ relation before after) :=
  Guarantees.imp within
    (fun _ _ both => both.imp_right (Accumulates.trans earlier))
    fun _ _ both => both.imp_right (Accumulates.trans earlier)

theorem pure
    [Accumulates relation]
    {value : Value}
    (returned : returns value) :
    Within relation (pure value) before returns fails :=
  ⟨returned, Accumulates.refl before⟩

theorem throw
    [Accumulates relation]
    {failure : Failure}
    (failed : fails failure) :
    Within relation (throw failure : EStateM Failure State Value) before
      returns fails :=
  ⟨failed, Accumulates.refl before⟩

/-- What comes after a change that is allowed begins where this one ended. -/
theorem andThen
    {next : Value → EStateM Failure State Result}
    {nextReturns : Result → State → Prop}
    {nextFails : Failure → State → Prop}
    (first : Within relation operation before returns fails)
    (failed :
      ∀ failure after,
        fails failure → relation before after → nextFails failure after)
    (second :
      ∀ value between,
        returns value →
        relation before between →
        Guarantees (next value) between nextReturns nextFails) :
    Guarantees (operation >>= next) before nextReturns nextFails := by
  refine Guarantees.bind (Guarantees.imp first ?_ ?_)
  · rintro value between ⟨returned, changed⟩
    exact second value between returned changed
  · rintro failure after ⟨failedFirst, changed⟩
    exact failed failure after failedFirst changed

theorem bind
    [Accumulates relation]
    {next : Value → EStateM Failure State Result}
    {nextReturns : Result → Prop}
    (first : Within relation operation before returns fails)
    (second :
      ∀ value between,
        returns value →
        relation before between →
        Within relation (next value) between nextReturns fails) :
    Within relation (operation >>= next) before nextReturns fails :=
  first.andThen (fun _ _ failed changed => ⟨failed, changed⟩)
    fun value between returned changed =>
      after changed (second value between returned changed)

theorem get_bind
    {next : State → EStateM Failure State Result}
    {nextReturns : Result → Prop}
    (second : Within relation (next before) before nextReturns fails) :
    Within relation (get >>= next) before nextReturns fails :=
  Guarantees.get_bind second

/-- The handler decides what becomes of a failure, and may change more. -/
theorem tryCatch
    [Accumulates relation]
    {handler : Failure → EStateM Failure State Value}
    (guarded : Within relation operation before returns fails)
    (handled :
      ∀ failure between,
        fails failure →
        Within relation (handler failure) between returns fails) :
    Within relation (tryCatch operation handler) before returns fails := by
  refine Guarantees.tryCatch (Guarantees.imp guarded (fun _ _ both => both) ?_)
  rintro failure between ⟨failed, changed⟩
  exact after changed (handled failure between failed)

end Within

end Outcome

end Tolerance

import TextVectors.Engine

namespace TextVectors

/-! What operations ensure.

A condition on the state before an operation is followed by one on its result and
the state after it, and where the operation can fail, by one on its error and the
state then.
-/

variable {σ ε ε' α β : Type}

def Ensures (before : σ → Prop) (step : StateM σ α) (after : α → σ → Prop) : Prop :=
  ∀ state, before state → after (step state).1 (step state).2

/-- What holds of either end of an operation. -/
def EndsIn (after : α → σ → Prop) (failed : ε → σ → Prop) : EStateM.Result ε σ α → Prop
  | .ok value state => after value state
  | .error error state => failed error state

def Attains (before : σ → Prop) (action : EStateM ε σ α) (after : α → σ → Prop)
    (failed : ε → σ → Prop) : Prop :=
  ∀ state, before state → EndsIn after failed (action state)

theorem bind_apply (first : StateM σ α) (next : α → StateM σ β) (state : σ) :
    (first >>= next) state = next (first state).1 (first state).2 := rfl

theorem get_bind_apply (next : σ → EStateM ε σ β) (state : σ) :
    (get >>= next) state = next state state := rfl

theorem ite_bind {condition : Prop} [Decidable condition] (one other : EStateM ε σ α)
    (next : α → EStateM ε σ β) :
    (if condition then one >>= next else other >>= next) =
      (if condition then one else other) >>= next := by
  split <;> rfl

theorem error_of_mapError {wrap : ε → ε'} {result : Except ε α} {error : ε'}
    (failed : result.mapError wrap = .error error) :
    ∃ failure, result = .error failure ∧ wrap failure = error := by
  cases result with
  | error failure =>
      cases failed
      exact ⟨failure, rfl, rfl⟩
  | ok value => cases failed

theorem ok_of_mapError {wrap : ε → ε'} {result : Except ε α} {value : α}
    (succeeded : result.mapError wrap = .ok value) : result = .ok value := by
  cases result with
  | error failure => cases succeeded
  | ok found =>
      cases succeeded
      rfl

theorem map_eq_ok_iff {change : α → β} {result : Except ε α} {value : β} :
    result.map change = .ok value ↔ ∃ found, result = .ok found ∧ change found = value := by
  cases result <;> simp [Except.map]

theorem map_eq_error_iff {change : α → β} {result : Except ε α} {error : ε} :
    result.map change = .error error ↔ result = .error error := by
  cases result <;> simp [Except.map]

theorem ok_of_toOption {result : Except ε α} {value : α} (found : result.toOption = some value) :
    result = .ok value := by
  cases result with
  | error error => cases found
  | ok other =>
      cases found
      rfl

theorem ok_of_bind {first : Except ε α} {next : α → Except ε β} {result : β}
    (succeeded : first >>= next = .ok result) :
    ∃ value, first = .ok value ∧ next value = .ok result := by
  cases first with
  | error error => cases succeeded
  | ok value => exact ⟨value, rfl, succeeded⟩

theorem error_of_bind {first : Except ε α} {next : α → Except ε β} {error : ε}
    (failed : first >>= next = .error error) :
    first = .error error ∨ ∃ value, first = .ok value ∧ next value = .error error := by
  cases first with
  | error cause =>
      cases failed
      exact .inl rfl
  | ok value => exact .inr ⟨value, rfl, failed⟩

theorem ok_of_guard {condition : Prop} [Decidable condition] {error : ε} {next : α → Except ε β}
    {rest : Except ε β} {result : β}
    (succeeded : (if condition then throw error >>= next else rest) = .ok result) :
    ¬ condition ∧ rest = .ok result := by
  split at succeeded
  · cases succeeded
  · rename_i passed
    exact ⟨passed, succeeded⟩

namespace Ensures

variable {before : σ → Prop} {after between : α → σ → Prop} {last : β → σ → Prop}
variable {step : StateM σ α} {next : α → StateM σ β}

theorem ofPure {value : α} (holds : ∀ state, before state → after value state) :
    Ensures before (pure value) after := holds

theorem ofModify {change : σ → σ} {after : Unit → σ → Prop}
    (holds : ∀ state, before state → after () (change state)) :
    Ensures before (modify change) after := holds

theorem bind (first : Ensures before step between)
    (rest : ∀ value, Ensures (between value) (next value) last) :
    Ensures before (step >>= next) last :=
  fun state holds => rest _ _ (first state holds)

end Ensures

namespace Attains

variable {before also : σ → Prop} {after between : α → σ → Prop} {last : β → σ → Prop}
variable {failed failed' : ε → σ → Prop} {action : EStateM ε σ α} {next : α → EStateM ε σ β}

theorem ofPure {value : α} (holds : ∀ state, before state → after value state) :
    Attains before (pure value) after failed := holds

theorem ofThrow {error : ε} (holds : ∀ state, before state → failed error state) :
    Attains before (throw error) after failed := holds

theorem ofGet : Attains before get (fun value state => value = state ∧ before state) failed :=
  fun _ holds => ⟨rfl, holds⟩

theorem ofModify {change : σ → σ} {after : Unit → σ → Prop}
    (holds : ∀ state, before state → after () (change state)) :
    Attains before (modify change) after failed := holds

theorem bind (first : Attains before action between failed)
    (rest : ∀ value, Attains (between value) (next value) last failed) :
    Attains before (action >>= next) last failed := by
  intro state holds
  have reached := first state holds
  change EndsIn last failed (EStateM.bind action next state)
  unfold EStateM.bind
  cases ended : action state with
  | ok value middle =>
      rw [ended] at reached
      exact rest value middle reached
  | error error middle =>
      rw [ended] at reached
      exact reached

theorem bindThrow {error : ε} {next : α → EStateM ε σ β}
    (holds : ∀ state, before state → failed error state) :
    Attains before (throw error >>= next) last failed := holds

theorem weaken (attained : Attains before action between failed)
    (weaker : ∀ value state, between value state → after value state)
    (weakerFailed : ∀ error state, failed error state → failed' error state) :
    Attains before action after failed' := by
  intro state holds
  have reached := attained state holds
  cases ended : action state with
  | ok value middle =>
      rw [ended] at reached
      exact weaker value middle reached
  | error error middle =>
      rw [ended] at reached
      exact weakerFailed error middle reached

/-- Two ways of looking at one operation. -/
theorem both (one : Attains before action after failed)
    (two : Attains also action between failed') :
    Attains (fun state => before state ∧ also state) action
      (fun value state => after value state ∧ between value state)
      (fun error state => failed error state ∧ failed' error state) := by
  intro state holds
  have first := one state holds.1
  have second := two state holds.2
  cases ended : action state <;> rw [ended] at first second <;> exact ⟨first, second⟩

theorem anything (action : EStateM ε σ α) :
    Attains before action (fun _ _ => True) (fun _ _ => True) := by
  intro state _
  cases action state <;> trivial

end Attains

namespace Attains

variable {before : Engine → Prop} {after : α → Engine → Prop} {failed : ε → Engine → Prop}
variable {action : Action ε α} {step : Step α}

theorem ofStep (ensured : Ensures before step after) :
    Attains before (liftM step : Action ε α) after failed := ensured

theorem ofExcept {result : Except ε α}
    (succeeds : ∀ value, result = .ok value → ∀ engine, before engine → after value engine)
    (fails : ∀ error, result = .error error → ∀ engine, before engine → failed error engine) :
    Attains before (TextVectors.ofExcept result) after failed := by
  cases result with
  | ok value => exact succeeds value rfl
  | error error => exact fails error rfl

theorem ofMapFailure {wrap : ε → ε'} {failed : ε' → Engine → Prop}
    (attained : Attains before action after fun error engine => failed (wrap error) engine) :
    Attains before (mapFailure wrap action) after failed := by
  intro engine holds
  have reached := attained engine holds
  unfold mapFailure
  cases ended : action engine <;> rw [ended] at reached <;> exact reached

/-- An operation whose failure is handed over ends like the operation itself. -/
theorem ensures_attempt (attained : Attains before action after failed) :
    Ensures before (attempt action) fun result engine =>
      match result with
      | .ok value => after value engine
      | .error error => failed error engine := by
  intro engine holds
  have reached := attained engine holds
  unfold attempt
  cases ended : action engine <;> rw [ended] at reached <;> exact reached

end Attains

/-- An operation ends as a computation without a state does, and keeps an invariant. -/
def Follows (invariant : σ → Prop) (action : EStateM ε σ α) (result : Except ε α) : Prop :=
  Attains invariant action (fun value after => invariant after ∧ result = .ok value)
    fun error after => invariant after ∧ result = .error error

namespace Follows

variable {invariant : σ → Prop} {action : EStateM ε σ α} {next : α → EStateM ε σ β}
variable {result : Except ε α} {rest : α → Except ε β}

theorem ofPure (value : α) : Follows invariant (pure value : EStateM ε σ α) (.ok value) :=
  Attains.ofPure fun _ kept => ⟨kept, rfl⟩

theorem bind (first : Follows invariant action result)
    (each : ∀ value, Follows invariant (next value) (rest value)) :
    Follows invariant (action >>= next) (result >>= rest) := by
  intro state kept
  have reached := first state kept
  change EndsIn _ _ (EStateM.bind action next state)
  unfold EStateM.bind
  cases ended : action state with
  | ok value middle =>
      rw [ended] at reached
      obtain ⟨keptToo, found⟩ := reached
      rw [found]
      exact each value middle keptToo
  | error error middle =>
      rw [ended] at reached
      obtain ⟨keptToo, failed⟩ := reached
      rw [failed]
      exact ⟨keptToo, rfl⟩

theorem mapM {operation : α → EStateM ε σ β} {result : α → Except ε β}
    (each : ∀ value, Follows invariant (operation value) (result value)) (values : List α) :
    Follows invariant (values.mapM operation) (values.mapM result) := by
  induction values with
  | nil => exact .ofPure []
  | cons value values ih =>
      rw [List.mapM_cons, List.mapM_cons]
      exact (each value).bind fun _ => ih.bind fun _ => .ofPure _

end Follows

end TextVectors

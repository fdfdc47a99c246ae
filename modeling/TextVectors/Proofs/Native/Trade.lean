import TextVectors.Proofs.Execution
import TextVectors.Proofs.Native.Ownership

namespace TextVectors

/-! Operations as trades.

An operation trades what it is given for what is obtained with its result.  Whatever
others own at the time stays theirs, so trades can be made one after the other and
beside each other.  An operation that can fail says what is left over then.
-/

open Inference

variable [Lineage] {ε ε' α β : Type}

def Trades (given : Owned) (step : Step α) (obtained : α → Owned) (good : α → Prop) : Prop :=
  ∀ frame, Ensures (·.Balanced (given + frame)) step fun value engine =>
    good value ∧ engine.Balanced (obtained value + frame)

def TradesOr (given : Owned) (action : Action ε α) (obtained : α → Owned)
    (good : α → Prop) (left : Owned) : Prop :=
  ∀ frame, Attains (·.Balanced (given + frame)) action
    (fun value engine => good value ∧ engine.Balanced (obtained value + frame))
    (fun _ engine => engine.Balanced (left + frame))

namespace Trades

variable {given given' : Owned} {step : Step α} {next : α → Step β}
variable {obtained obtained' : α → Owned} {last : β → Owned} {good good' : α → Prop}
variable {goodLast : β → Prop}

theorem ofPure {value : α} (holds : good value) (same : given = obtained value) :
    Trades given (pure value) obtained good := by
  intro frame engine balanced
  rw [same] at balanced
  exact ⟨holds, balanced⟩

theorem within (extra : Owned) (traded : Trades given step obtained good)
    (split : given' = given + extra)
    (same : ∀ value, good value → obtained value + extra = obtained' value)
    (better : ∀ value, good value → good' value) : Trades given' step obtained' good' := by
  intro frame engine balanced
  rw [split, add_assoc] at balanced
  obtain ⟨holds, after⟩ := traded (extra + frame) engine balanced
  rw [← add_assoc, same _ holds] at after
  exact ⟨better _ holds, after⟩

theorem weaken (traded : Trades given step obtained good)
    (better : ∀ value, good value → good' value) : Trades given step obtained good' :=
  traded.within 0 (add_zero _).symm (fun _ _ => add_zero _) better

theorem bind (first : Trades given step obtained good)
    (rest : ∀ value, good value → Trades (obtained value) (next value) last goodLast) :
    Trades given (step >>= next) last goodLast := by
  intro frame engine balanced
  obtain ⟨holds, between⟩ := first frame engine balanced
  exact rest _ holds frame _ between

/-- A first trade with a part of what there is. -/
theorem bindBeside (extra : Owned) (first : Trades given step obtained good)
    (split : given' = given + extra)
    (rest : ∀ value, good value → Trades (obtained value + extra) (next value) last goodLast) :
    Trades given' (step >>= next) last goodLast :=
  (first.within extra split (fun _ _ => rfl) fun _ holds => holds).bind rest

theorem map {change : α → β} (traded : Trades given step obtained good)
    (same : ∀ value, obtained value = last (change value))
    (better : ∀ value, good value → goodLast (change value)) :
    Trades given (change <$> step) last goodLast :=
  .bind traded fun value holds => .ofPure (better value holds) (same value)

/-- An operation that does not concern the library. -/
theorem ofQuiet (history : ∀ engine, (step engine).2.history = engine.history)
    (references : ∀ engine, (step engine).2.references = engine.references)
    (holds : ∀ engine, good (step engine).1) : Trades given step (fun _ => given) good :=
  fun _ engine balanced => ⟨holds engine, balanced.congr (history engine) (references engine)⟩

end Trades

namespace TradesOr

variable {given given' left left' : Owned} {action : Action ε α} {next : α → Action ε β}
variable {obtained obtained' : α → Owned} {last : β → Owned} {good good' : α → Prop}
variable {goodLast : β → Prop}

theorem ofPure {value : α} (holds : good value) (same : given = obtained value) :
    TradesOr given (pure value : Action ε α) obtained good left := by
  intro frame engine balanced
  rw [same] at balanced
  exact ⟨holds, balanced⟩

theorem ofThrow {error : ε} (same : given = left) :
    TradesOr given (throw error : Action ε α) obtained good left := by
  intro frame engine balanced
  rw [same] at balanced
  exact balanced

theorem within (extra : Owned) (traded : TradesOr given action obtained good left')
    (split : given' = given + extra) (leftover : left' + extra = left)
    (same : ∀ value, good value → obtained value + extra = obtained' value)
    (better : ∀ value, good value → good' value) : TradesOr given' action obtained' good' left := by
  intro frame engine balanced
  rw [split, add_assoc] at balanced
  have reached := traded (extra + frame) engine balanced
  cases ended : action engine with
  | ok value after =>
      rw [ended] at reached
      obtain ⟨holds, balancedAfter⟩ := reached
      rw [← add_assoc, same value holds] at balancedAfter
      exact ⟨better value holds, balancedAfter⟩
  | error error after =>
      rw [ended] at reached
      change after.Balanced (left' + (extra + frame)) at reached
      rw [← add_assoc, leftover] at reached
      exact reached

theorem weaken (traded : TradesOr given action obtained good left)
    (better : ∀ value, good value → good' value) : TradesOr given action obtained good' left :=
  traded.within 0 (add_zero _).symm (add_zero _) (fun _ _ => add_zero _) better

theorem bind (first : TradesOr given action obtained good left)
    (rest : ∀ value, good value → TradesOr (obtained value) (next value) last goodLast left) :
    TradesOr given (action >>= next) last goodLast left := by
  intro frame
  refine Attains.bind (first frame) ?_
  intro value engine reached
  obtain ⟨holds, balanced⟩ := reached
  exact rest value holds frame engine balanced

theorem ofStep {step : Step α} (traded : Trades given step obtained good) :
    TradesOr given (liftM step : Action ε α) obtained good left :=
  fun frame => Attains.ofStep (traded frame)

theorem bindStep {step : Step α} (first : Trades given step obtained good)
    (rest : ∀ value, good value → TradesOr (obtained value) (next value) last goodLast left) :
    TradesOr given ((liftM step : Action ε α) >>= next) last goodLast left :=
  (ofStep first).bind rest

theorem bindStepBeside (extra : Owned) {step : Step α} (first : Trades given step obtained good)
    (split : given' = given + extra)
    (rest : ∀ value, good value →
      TradesOr (obtained value + extra) (next value) last goodLast left) :
    TradesOr given' ((liftM step : Action ε α) >>= next) last goodLast left :=
  (ofStep (first.within extra split (fun _ _ => rfl) fun _ holds => holds)).bind rest

theorem ofGet : TradesOr given (get : Action ε Engine) (fun _ => given) (fun _ => True) left :=
  fun _ _ balanced => ⟨trivial, balanced⟩

theorem bindThrow {error : ε} (same : given = left) :
    TradesOr given (throw error >>= next : Action ε β) last goodLast left :=
  ofThrow same

theorem ofExcept (result : Except ε α) :
    TradesOr given (TextVectors.ofExcept result) (fun _ => given) (fun value => result = .ok value)
      given :=
  fun _ => Attains.ofExcept (fun _ succeeded _ balanced => ⟨succeeded, balanced⟩)
    fun _ _ _ balanced => balanced

theorem ofMapFailure {wrap : ε → ε'} (traded : TradesOr given action obtained good left) :
    TradesOr given (mapFailure wrap action) obtained good left :=
  fun frame => Attains.ofMapFailure (traded frame)

theorem map {change : α → β} (traded : TradesOr given action obtained good left)
    (same : ∀ value, obtained value = last (change value))
    (better : ∀ value, good value → goodLast (change value)) :
    TradesOr given (change <$> action) last goodLast left :=
  .bind traded fun value holds => .ofPure (better value holds) (same value)

/-- Of a failed operation, what is left over is obtained. -/
theorem trades_attempt (traded : TradesOr given action obtained good left) :
    Trades given (attempt action)
      (fun result => match result with
        | .ok value => obtained value
        | .error _ => left)
      (fun result => ∀ value, result = .ok value → good value) := by
  intro frame engine balanced
  have reached := traded frame engine balanced
  unfold attempt
  cases ended : action engine with
  | ok value after =>
      rw [ended] at reached
      refine ⟨?_, reached.2⟩
      intro _ absurd
      cases absurd
      exact reached.1
  | error error after =>
      rw [ended] at reached
      exact ⟨by rintro _ ⟨⟩, reached⟩

theorem trades_attempt_same {obtained : Owned}
    (traded : TradesOr given action (fun _ => obtained) good obtained) :
    Trades given (attempt action) (fun _ => obtained) (fun _ => True) := by
  refine traded.trades_attempt.within 0 (add_zero _).symm (fun result _ => ?_) fun _ _ => trivial
  rw [add_zero]
  cases result <;> rfl

end TradesOr

open Owned

variable {given : Owned} {call : Call}

theorem note_trades (severity : Severity) (text : String) :
    Trades given (note severity text) (fun _ => given) (fun _ => True) :=
  .ofQuiet (fun _ => rfl) (fun _ => rfl) (fun _ => trivial)

theorem consult_trades (consultation : Consultation) :
    Trades given (Engine.consult consultation) (fun _ => given) (fun _ => True) :=
  .ofQuiet (fun _ => rfl) (fun _ => rfl) (fun _ => trivial)

/-- A failed call leaves nothing behind, since its status is released at once. -/
theorem failed_balanced {engine : Engine} {owned : Owned} (balanced : engine.Balanced owned)
    (used : ∀ handle ∈ call.uses, owned.Holds handle) :
    let status := engine.history.fresh .status
    ((((engine.recorded (.called call (.failed status))).recorded
      (.readCode status)).recorded (.readMessage status)).recorded (.released status)).Balanced
        owned := by
  intro status
  have placed : (object status + owned).Placed := by
    rw [placed_add, placed_object]
    exact ⟨rfl, balanced.placed⟩
  have failed : (engine.recorded (.called call (.failed status))).Balanced
      (object status + owned) :=
    balanced.recorded_created used rfl rfl (by simp)
      (by simp [status, Multiset.singleton_add, Multiset.cons_add]) placed
  have read : ∀ event : Event, event.uses = [status] →
      ∀ handle ∈ event.uses, (object status + owned).Holds handle := by
    intro event uses handle member
    rw [uses, List.mem_singleton] at member
    rw [member]
    exact (holds_object status).add owned
  have readCode := failed.recorded_plain (read (.readCode status) rfl) rfl rfl
  have readMessage := readCode.recorded_plain (read (.readMessage status) rfl) rfl rfl
  exact readMessage.recorded_released (by simp)
    (by simp [Multiset.singleton_add, Multiset.cons_add]) balanced.placed

theorem request_ends (obtained : Option Handle → Owned)
    (held : ∀ handle ∈ call.uses, given.Holds handle) (nothing : obtained none = given)
    (made : ∀ {kind frame} {engine : Engine}, call.creates = some kind →
      engine.Balanced (given + frame) →
      (engine.recorded (.called call (.created (engine.history.fresh kind)))).Balanced
        (obtained (some (engine.history.fresh kind)) + frame)) :
    TradesOr given (Engine.request call) obtained
      (fun result => ∀ handle, result = some handle → call.creates = some handle.kind) given := by
  intro frame engine balanced
  have used : ∀ handle ∈ call.uses, (given + frame).Holds handle :=
    fun handle member => (held handle member).add frame
  cases answered : engine.nextAnswer call.function with
  | failure code text =>
      rw [Engine.request_failure answered]
      exact failed_balanced balanced used
  | success =>
      cases creating : call.creates with
      | none =>
          rw [Engine.request_done (by simp [answered]) creating]
          refine ⟨by rintro _ ⟨⟩, ?_⟩
          rw [nothing]
          exact balanced.recorded_plain used rfl rfl
      | some kind =>
          rw [Engine.request_created answered creating]
          refine ⟨fun handle same => ?_, made creating balanced⟩
          cases same
          rfl
  | null =>
      have empty : ∀ outcome, (Event.called call outcome).created? = none →
          (engine.recorded (.called call outcome)).Balanced (obtained none + frame) := by
        intro outcome created
        rw [nothing]
        exact balanced.recorded_plain used created rfl
      cases creating : call.creates with
      | none =>
          rw [Engine.request_done (by simp [answered]) creating]
          exact ⟨by rintro _ ⟨⟩, empty .done rfl⟩
      | some kind =>
          rw [Engine.request_null answered creating]
          exact ⟨by rintro _ ⟨⟩, empty .null rfl⟩

theorem request_trades (held : ∀ handle ∈ call.uses, given.Holds handle)
    (nothing : call.creates = none) :
    TradesOr given (Engine.request call) (fun _ => given) (fun _ => True) given := by
  refine (request_ends (fun _ => given) held rfl ?_).weaken fun _ _ => trivial
  intro kind frame engine creating
  rw [nothing] at creating
  cases creating

variable {runtime : Runtime} {objects : Multiset Handle} {kind : ObjectKind}

/-- What is made through a runtime is owned with the reference to it. -/
theorem make_trades (current : Lineage.current runtime.environment)
    (creating : call.creates = some kind) (dependent : kind.dependent = true)
    (held : ∀ handle ∈ call.uses, (stake runtime objects).Holds handle) :
    TradesOr (stake runtime objects) (Engine.request call)
      (fun result => stake runtime (handles result + objects)) (fun _ => True)
      (stake runtime objects) := by
  refine (request_ends (fun result => stake runtime (handles result + objects)) held
    (by rw [handles_none, zero_add]) ?_).weaken fun _ _ => trivial
  intro made frame engine creates balanced
  rw [creating] at creates
  cases creates
  have placed := placed_add.mp balanced.placed
  obtain ⟨root, former⟩ := placed_stake.mp placed.1
  refine balanced.recorded_created (fun handle used => (held handle used).add frame) rfl rfl
    (by simp) ?_ ?_
  · simp only [handles_some, Prod.fst_add, fst_stake, made_add, made_stake, zero_add,
      Multiset.singleton_add, Multiset.cons_add, Multiset.add_cons]
  · rw [placed_add, placed_stake]
    refine ⟨⟨root, fun object member => ?_⟩, placed.2⟩
    rcases Multiset.mem_add.mp member with fresh | old
    · rw [Multiset.mem_singleton.mp fresh]
      exact ⟨dependent, balanced.through_fresh kind current⟩
    · exact former object old

theorem TradesOr.bindMake {left : Owned} {next : Option Handle → Action RuntimeError α}
    {last : α → Owned} {good : α → Prop} (current : Lineage.current runtime.environment)
    (creating : call.creates = some kind) (dependent : kind.dependent = true)
    (held : ∀ handle ∈ call.uses, (stake runtime objects).Holds handle)
    (leftover : stake runtime objects = left)
    (nothing : TradesOr (stake runtime objects) (next none) last good left)
    (something : ∀ handle,
      TradesOr (stake runtime ({handle} + objects)) (next (some handle)) last good left) :
    TradesOr (stake runtime objects) (Engine.request call >>= next) last good left := by
  subst leftover
  refine .bind (make_trades current creating dependent held) fun result _ => ?_
  cases result with
  | none =>
      rw [handles_none, zero_add]
      exact nothing
  | some handle => exact something handle

theorem requestRun_trades (held : ∀ handle ∈ call.uses, given.Holds handle)
    (nothing : call.creates = none) :
    TradesOr given (Engine.requestRun call) (fun _ => given) (fun _ => True) given :=
  fun frame => Engine.requestRun_attains
    (((request_trades held nothing) frame).weaken (fun _ _ reached => reached) fun _ _ left => left)

/-- What was made through a runtime goes, and the reference stays. -/
theorem release_trades (handle : Handle) :
    Trades (stake runtime ({handle} + objects)) (Engine.release handle)
      (fun _ => stake runtime objects) (fun _ => True) := by
  intro frame engine balanced
  refine ⟨trivial, balanced.recorded_released (by simp) ?_ ?_⟩
  · simp only [Prod.fst_add, fst_stake, made_add, made_stake, zero_add, Multiset.singleton_add,
      Multiset.cons_add, Multiset.add_cons]
  · have placed := placed_add.mp balanced.placed
    obtain ⟨root, made⟩ := placed_stake.mp placed.1
    rw [placed_add, placed_stake]
    exact ⟨⟨root, fun object member => made object (Multiset.mem_add.mpr (.inr member))⟩, placed.2⟩

/-- The first reference takes over the native environment. -/
theorem refer_trades (runtime : Runtime) (root : runtime.environment.kind = .environment) :
    Trades (object runtime.environment) runtime.retain (fun _ => reference runtime)
      (fun _ => True) :=
  fun _ _ balanced => ⟨trivial, balanced.referred root⟩

theorem retain_trades :
    Trades (stake runtime objects) runtime.retain
      (fun _ => stake runtime objects + reference runtime) (fun _ => True) := by
  intro frame engine balanced
  refine ⟨trivial, ?_⟩
  rw [add_comm (stake runtime objects), add_assoc]
  exact balanced.retained (by simp)

theorem letGo_trades (runtime : Runtime) :
    Trades (reference runtime) runtime.letGo (fun _ => 0) (fun _ => True) := by
  intro frame engine balanced
  refine ⟨trivial, ?_⟩
  rw [zero_add]
  have contained : (engine.references.erase runtime.environment).contains runtime.environment =
      decide (runtime.environment ∈ frame.environments) := by
    rw [← balanced.erased_references]
    simp
  -- The reference is the last one where nobody else refers to the environment.
  unfold Runtime.letGo
  simp only [bind_apply, modify, modifyGet, MonadStateOf.modifyGet, StateT.modifyGet, get, getThe,
    MonadStateOf.get, StateT.get, pure, contained]
  by_cases others : runtime.environment ∈ frame.environments
  · simp only [others, decide_true, Bool.not_true, Bool.false_eq_true, if_false]
    exact balanced.unreferred others
  · simp only [others, decide_false, Bool.not_false, if_true]
    exact (balanced.unreferred_last others).congr rfl rfl

end TextVectors

import TextVectors.Embedding.Sparse
import TextVectors.Proofs.Cache.Custody
import TextVectors.Proofs.Native.BatchSession
import TextVectors.Proofs.Native.Environment

namespace TextVectors

/-! Embedders own their cached batch sessions.

While they embed, the environment's reference keeps the runtime; what an embedder
caches is accounted for beside it.
-/

open Inference Owned

variable [Lineage] {α β : Type} {base given : Owned} {batch : Nat} {bundle changed : BatchSession}

/-- Batch sessions are accounted for by what they own, beside a base that stays. -/
def custody (base : Owned) : Custody Engine BatchSession Owned where
  accounts engine owned := engine.Balanced (owned + base)
  share := BatchSession.assets
  fits batch bundle := bundle.batch = batch ∧ bundle.Whole
  refuses _ _ := True
  sticks _ := True

theorem disposed_accounts {result : Except EmbeddingError Unit} {engine after : Engine}
    (suited : (custody base).fits batch bundle)
    (vouched : (custody base).accounts engine ((custody base).share bundle + given))
    (ran : disposeSession bundle engine = (result, after)) :
    (custody base).accounts after given := by
  cases ran
  have balanced : engine.Balanced (bundle.assets + (given + base)) := by
    rw [← add_assoc]
    exact vouched
  have gone := (BatchSession.dispose_trades suited.2 (given + base) engine balanced).2
  rw [zero_add] at gone
  exact gone

theorem closing_lawful (base : Owned) : (custody base).Lawful closingActions where
  noted _ _ balanced := balanced.congr rfl rfl
  created := by
    intro batch engine given result after vouched ran
    cases ran
    exact .inr ⟨_, rfl, trivial, vouched⟩
  destroyed suited vouched ran := ⟨disposed_accounts suited vouched ran, fun _ _ => trivial⟩

theorem source_create_trades {source : EmbedAction.Source}
    (current : Lineage.current source.runtime.environment) (batch : Nat) :
    TradesOr (reference source.runtime) (source.create batch)
      (fun bundle => bundle.assets + reference source.runtime)
      (fun bundle => bundle.batch = batch ∧ bundle.Whole) (reference source.runtime) :=
  .bind (.ofExcept _) fun shape _ =>
    BatchSession.create_trades current source.host source.binding batch shape

theorem source_lawful {source : EmbedAction.Source}
    (current : Lineage.current source.runtime.environment) :
    (custody (reference source.runtime)).Lawful source.actions where
  noted _ _ balanced := balanced.congr rfl rfl
  created := by
    intro batch engine given result after vouched ran
    have balanced : engine.Balanced (reference source.runtime + given) := by
      rw [add_comm]
      exact vouched
    have traded := (source_create_trades current batch).trades_attempt given engine balanced
    change attempt (source.create batch) engine = (result, after) at ran
    rw [ran] at traded
    cases result with
    | ok bundle =>
        refine .inl ⟨bundle, rfl, traded.1 bundle rfl, ?_⟩
        have owned := traded.2
        rw [add_right_comm] at owned
        exact owned
    | error error =>
        refine .inr ⟨error, rfl, trivial, ?_⟩
        have owned := traded.2
        rw [add_comm] at owned
        exact owned
  destroyed suited vouched ran := ⟨disposed_accounts suited vouched ran, fun _ _ => trivial⟩

namespace EmbedAction

/-- The cached batch sessions and what is given to others are all there is. -/
def Kept (base given : Owned) (state : EmbedState) : Prop :=
  (custody base).Guarded state.sessions state.engine given

def Keeps (base given : Owned) (action : EmbedAction α) : Prop :=
  Attains (Kept base given) action (fun _ => Kept base given) (fun _ => Kept base given)

namespace Keeps

theorem ofPure (value : α) : Keeps base given (pure value : EmbedAction α) :=
  Attains.ofPure fun _ kept => kept

theorem ofThrow (error : EmbeddingError) : Keeps base given (throw error : EmbedAction α) :=
  Attains.ofThrow fun _ kept => kept

theorem bind {action : EmbedAction α} {next : α → EmbedAction β}
    (first : Keeps base given action) (rest : ∀ value, Keeps base given (next value)) :
    Keeps base given (action >>= next) :=
  Attains.bind first rest

theorem ofAction {action : Action EmbeddingError α} {good : α → Prop}
    (traded : TradesOr 0 action (fun _ => 0) good 0) :
    Keeps base given (EmbedAction.ofAction action) := by
  intro state kept
  have vouched :
      state.engine.Balanced (0 + ((custody base).total state.sessions + given + base)) := by
    rw [zero_add]
    exact kept.vouched
  have reached := traded _ state.engine vouched
  unfold EmbedAction.ofAction
  cases ended : action state.engine with
  | ok value engine =>
      rw [ended] at reached
      have balanced := reached.2
      rw [zero_add] at balanced
      exact ⟨kept.consistent, kept.suited, balanced⟩
  | error error engine =>
      rw [ended] at reached
      change engine.Balanced _ at reached
      rw [zero_add] at reached
      exact ⟨kept.consistent, kept.suited, reached⟩

theorem ofStep {step : Step α} {good : α → Prop} (traded : Trades 0 step (fun _ => 0) good) :
    Keeps base given (EmbedAction.ofStep step) :=
  ofAction (TradesOr.ofStep traded)

theorem ofExcept (result : Except EmbeddingError α) :
    Keeps base given (EmbedAction.ofExcept result) :=
  ofAction (TradesOr.ofExcept result)

theorem mapM {operation : α → EmbedAction β}
    (each : ∀ value, Keeps base given (operation value)) (values : List α) :
    Keeps base given (values.mapM operation) := by
  induction values with
  | nil => exact ofPure []
  | cons value rest ih =>
      rw [List.mapM_cons]
      exact (each value).bind fun _ => ih.bind fun _ => ofPure _

end Keeps

variable {source : Source}

/-- A batch session is cached under its batch size. -/
def Cached (base given : Owned) (bundle : BatchSession) (state : EmbedState) : Prop :=
  Kept base given state ∧ state.sessions.find? bundle.batch = some bundle

theorem acquire_attains (current : Lineage.current source.runtime.environment) (batch : Nat) :
    Attains (Kept (reference source.runtime) given) (acquire source batch)
      (Cached (reference source.runtime) given)
      (fun _ => Kept (reference source.runtime) given) := by
  intro state kept
  unfold acquire
  cases ran : state.sessions.acquire source.actions batch state.engine with
  | mk outcome engine =>
      obtain ⟨result, sessions⟩ := outcome
      obtain ⟨guarded, -, stored, -⟩ := kept.acquire (source_lawful current) ran
      cases result with
      | ok bundle =>
          have found := (stored bundle rfl).1
          refine ⟨guarded, ?_⟩
          rw [(guarded.suited_of_find? found).1]
          exact found
      | error error => exact guarded

/-- A batch session that is put back may have other contents. -/
theorem Cached.store {state : EmbedState} (cached : Cached base given bundle state)
    (same : changed.batch = bundle.batch) (assets : changed.assets = bundle.assets)
    (whole : bundle.Whole → changed.Whole) :
    Cached base given changed
      { state with sessions := state.sessions.update changed.batch changed } := by
  obtain ⟨kept, found⟩ := cached
  have suited := kept.suited_of_find? found
  rw [← same] at found suited
  refine ⟨kept.update found ⟨rfl, whole suited.2⟩ assets, ?_⟩
  exact SessionCache.find?_update
    (SessionCache.mem_keys_of_entry (SessionCache.mem_entries_of_find? found)) changed

theorem runStored_attains (bundle : BatchSession) (runContext : String) :
    Attains (Cached base given bundle) (runStored bundle runContext)
      (fun _ => Kept base given) (fun _ => Kept base given) := by
  intro state reached
  obtain ⟨kept, found⟩ := reached
  have shares : (custody base).total state.sessions =
      bundle.assets + (custody base).total (state.sessions.without bundle.batch) :=
    Custody.total_of_find? kept.consistent.keysNodup found
  have total : (custody base).total state.sessions + given + base =
      bundle.assets +
        ((custody base).total (state.sessions.without bundle.batch) + given + base) := by
    rw [shares]
    simp only [add_assoc]
  have owned : state.engine.Balanced (bundle.assets +
      ((custody base).total (state.sessions.without bundle.batch) + given + base)) := by
    rw [← total]
    exact kept.vouched
  have ran := (BatchSession.run_trades (kept.suited_of_find? found).2 _ state.engine owned).2
  rw [← total] at ran
  refine runStored_ends fun changed refilled => ?_
  have run : Cached base given bundle { state with engine := (bundle.run state.engine).2 } :=
    ⟨⟨kept.consistent, kept.suited, ran⟩, found⟩
  have stored := run.store refilled.batch refilled.assets refilled.whole
  exact ⟨fun _ => stored.1, fun _ _ => stored.1⟩

theorem runBatch_keeps {runtime : Runtime} (same : source.runtime = runtime)
    (current : Lineage.current runtime.environment) (batch : Nat)
    {fill : BatchSession → Except EmbeddingError Unit × BatchSession}
    (fills : ∀ bundle, ∃ buffers, (fill bundle).2 = bundle.setBuffers buffers)
    (fillFailure : EmbeddingError → EmbeddingError) (runContext : String) :
    Keeps (reference runtime) given (runBatch source batch fill fillFailure runContext) := by
  subst same
  refine Attains.bind (acquire_attains current batch) fun bundle => ?_
  obtain ⟨buffers, filled⟩ := fills bundle
  dsimp only
  rw [filled]
  have written : Attains (Cached (reference source.runtime) given bundle)
      (store (bundle.setBuffers buffers))
      (fun _ => Cached (reference source.runtime) given (bundle.setBuffers buffers))
      (fun _ => Kept (reference source.runtime) given) :=
    Attains.ofModify fun _ cached => cached.store rfl (bundle.assets_setBuffers buffers)
      fun whole => BatchSession.whole_setBuffers whole buffers
  refine Attains.bind written fun _ => ?_
  have checked : Attains (Cached (reference source.runtime) given (bundle.setBuffers buffers))
      (ofExcept ((fill bundle).1.mapError fillFailure))
      (fun _ => Cached (reference source.runtime) given (bundle.setBuffers buffers))
      (fun _ => Kept (reference source.runtime) given) := by
    intro state cached
    cases result : (fill bundle).1 with
    | ok _ => exact cached
    | error error => exact cached.1
  exact Attains.bind checked fun _ => runStored_attains _ runContext

theorem askEncode_trades (tokenizer : Tokenizer) (text : String) :
    Trades 0 (tokenizer.askEncode text) (fun _ => 0) (fun _ => True) :=
  .bind (consult_trades _) fun _ _ => .ofPure trivial rfl

theorem encodeAll_trades (tokenizer : Tokenizer) (position : Nat) (documents : List String) :
    TradesOr 0 (encodeAll tokenizer position documents) (fun _ => 0) (fun _ => True) 0 := by
  induction documents generalizing position with
  | nil => exact .ofPure trivial rfl
  | cons document rest ih =>
      refine .bindStep (askEncode_trades tokenizer document) fun result _ => ?_
      cases result with
      | error error => exact .ofThrow rfl
      | ok encoding => exact .bind (ih (position + 1)) fun _ _ => .ofPure trivial rfl

end EmbedAction

end TextVectors

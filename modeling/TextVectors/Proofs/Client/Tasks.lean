import TextVectors.Proofs.Client.Holdings

namespace TextVectors.Client

/-! Every task leaves the client owning everything that is live. -/

open Inference Owned

namespace Task

theorem setLibraryPath_same {environment changed : Environment} {path : String}
    (set : environment.setLibraryPath path = .ok changed) :
    changed.runtime = environment.runtime ∧ changed.count = environment.count := by
  rcases Environment.setLibraryPath_ok set with rfl | ⟨-, rfl⟩ <;> exact ⟨rfl, rfl⟩

theorem setLogLevel_same {environment changed : Environment} {level : LoggingLevel}
    (set : environment.setLogLevel level = .ok changed) :
    changed.runtime = environment.runtime ∧ changed.count = environment.count := by
  rcases Environment.setLogLevel_ok set with rfl | ⟨-, rfl⟩ <;> exact ⟨rfl, rfl⟩

end Task

variable [Lineage] {α β : Type} {holdings : Holdings} {engine : Engine} {name : String} {given : Owned}

namespace Slot

variable {slot : Slot α} {value : α}

/-- All is accounted for but what stands under a name, in place of which something is given. -/
structure Open (slot : Slot α) (name : String) (given : Owned) (holdings : Holdings)
    (engine : Engine) : Prop where
  kept : holdings.Kept
  balanced : engine.Balanced (given + (slot.erase holdings name).assets)

theorem open_of_find? (value : α) (settled : holdings.Settled engine)
    (found : (slot.table holdings).find? name = some value) :
    slot.Open name (slot.assets value) holdings engine := by
  refine ⟨settled.kept, ?_⟩
  rw [← slot.assets_of_find? settled.kept found]
  exact settled.balanced

theorem Open.trade {step : Step β} {obtained : β → Owned} {good : β → Prop}
    (opened : slot.Open name given holdings engine) (traded : Trades given step obtained good) :
    good (step engine).1 ∧ slot.Open name (obtained (step engine).1) holdings (step engine).2 := by
  obtain ⟨holds, balanced⟩ := traded _ engine opened.balanced
  exact ⟨holds, opened.kept, balanced⟩

theorem Open.put (opened : slot.Open name (slot.assets value) holdings engine)
    (good : slot.good value) : (slot.put holdings name value).Settled engine := by
  refine ⟨slot.kept_put opened.kept good name, ?_⟩
  rw [slot.assets_put opened.kept]
  exact opened.balanced

theorem Open.erase (opened : slot.Open name 0 holdings engine) :
    (slot.erase holdings name).Settled engine := by
  refine ⟨slot.kept_erase opened.kept name, ?_⟩
  rw [← zero_add (slot.erase holdings name).assets]
  exact opened.balanced

/-- Something is in hand beside all that is held. -/
structure Offered (slot : Slot α) (value : α) (holdings : Holdings) (engine : Engine) : Prop where
  kept : holdings.Kept
  good : slot.good value
  balanced : engine.Balanced (slot.assets value + holdings.assets)

theorem Offered.put_missing (offered : slot.Offered value holdings engine)
    (missing : (slot.table holdings).find? name = none) :
    (slot.put holdings name value).Settled engine := by
  refine ⟨slot.kept_put offered.kept offered.good name, ?_⟩
  rw [slot.assets_put offered.kept, ← slot.assets_of_missing missing]
  exact offered.balanced

variable {drop : α → Step Unit} {replaced : α}

/-- What is offered takes the place of what was held under a name, which is given up. -/
theorem Offered.put_replacing (offered : slot.Offered value holdings engine)
    (drops : ∀ value, slot.good value → Trades (slot.assets value) (drop value) (fun _ => 0)
      (fun _ => True))
    (found : (slot.table holdings).find? name = some replaced) :
    (slot.put holdings name value).Settled (drop replaced engine).2 := by
  refine ⟨slot.kept_put offered.kept offered.good name, ?_⟩
  have balanced := offered.balanced
  rw [slot.assets_of_find? offered.kept found, add_left_comm] at balanced
  have gone := (drops replaced (slot.good_of_find? offered.kept found) _ engine balanced).2
  rw [slot.assets_put offered.kept]
  rw [zero_add] at gone
  exact gone

theorem discard_settled
    (drops : ∀ value, slot.good value → Trades (slot.assets value) (drop value) (fun _ => 0)
      (fun _ => True))
    (settled : holdings.Settled engine)
    (found : (slot.table holdings).find? name = some value) :
    (slot.erase holdings name).Settled (drop value engine).2 :=
  have dropped := drops value (slot.good_of_find? settled.kept found)
  ((open_of_find? value settled found).trade dropped).2.erase

end Slot

namespace Task

theorem letGo_drops (runtime : Runtime) (_ : runtimeSlot.good runtime) :
    Trades (runtimeSlot.assets runtime) runtime.letGo (fun _ => 0) (fun _ => True) :=
  letGo_trades runtime

theorem discardTensor_drops (tensor : AnyTensor) (whole : tensorSlot.good tensor) :
    Trades (tensorSlot.assets tensor) (discardTensor tensor) (fun _ => 0) (fun _ => True) :=
  Tensor.discard_trades whole

theorem discardSession_drops (session : Session) (_ : sessionSlot.good session) :
    Trades (sessionSlot.assets session) session.discard (fun _ => 0) (fun _ => True) :=
  Session.discard_trades session

theorem discardEmbedder_drops (held : HeldEmbedder) (kept : embedderSlot.good held) :
    Trades (embedderSlot.assets held) held.embedder.discard (fun _ => 0) (fun _ => True) := by
  obtain ⟨embedder, own⟩ := held
  cases embedder <;> exact discard_trades kept

theorem keepRuntime_yields (name : String) (runtime : Runtime) :
    Yields (runtimeSlot.Offered runtime) (keepRuntime name runtime)
      (fun _ => Holdings.Settled) := by
  refine .bind .ofGet fun seen => ?_
  intro holdings engine reached
  obtain ⟨rfl, offered⟩ := reached
  cases found : seen.runtime? name with
  | none => exact offered.put_missing found
  | some replaced => exact offered.put_replacing letGo_drops found

theorem keepTensor_yields (name : String) (tensor : AnyTensor) :
    Yields (tensorSlot.Offered tensor) (keepTensor name tensor) (fun _ => Holdings.Settled) := by
  refine .bind .ofGet fun seen => ?_
  intro holdings engine reached
  obtain ⟨rfl, offered⟩ := reached
  cases found : seen.tensor? name with
  | none => exact offered.put_missing found
  | some replaced => exact offered.put_replacing discardTensor_drops found

theorem keepSession_yields (name : String) (session : Session) :
    Yields (sessionSlot.Offered session) (keepSession name session)
      (fun _ => Holdings.Settled) := by
  refine .bind .ofGet fun seen => ?_
  intro holdings engine reached
  obtain ⟨rfl, offered⟩ := reached
  cases found : seen.session? name with
  | none => exact offered.put_missing found
  | some replaced => exact offered.put_replacing discardSession_drops found

theorem keepEmbedder_yields (name : String) (held : HeldEmbedder) :
    Yields (embedderSlot.Offered held) (keepEmbedder name held) (fun _ => Holdings.Settled) := by
  refine .bind .ofGet fun seen => ?_
  intro holdings engine reached
  obtain ⟨rfl, offered⟩ := reached
  cases found : seen.embedder? name with
  | none => exact offered.put_missing found
  | some replaced => exact offered.put_replacing discardEmbedder_drops found

theorem storeTensor_yields (name : String) (tensor : AnyTensor) (whole : tensor.tensor.Whole) :
    Yields (tensorSlot.Open name (tensorAssets tensor)) (storeTensor name tensor)
      (fun _ => Holdings.Settled) :=
  .ofModify fun _ _ opened => opened.put whole

theorem storeSession_yields (name : String) (session : Session) :
    Yields (sessionSlot.Open name session.assets) (storeSession name session)
      (fun _ => Holdings.Settled) :=
  .ofModify fun _ _ opened => opened.put trivial

theorem storeEmbedder_yields (name : String) (held : HeldEmbedder)
    (kept : SessionsKept held.embedder.sessions) :
    Yields (embedderSlot.Open name held.assets) (storeEmbedder name held)
      (fun _ => Holdings.Settled) :=
  .ofModify fun _ _ opened => opened.put kept

/-- What the client owns beside its environment. -/
def others (holdings : Holdings) : Owned :=
  holdings.runtimes.total reference + (holdings.tensors.total tensorAssets +
    (holdings.sessions.total Session.assets + holdings.embedders.total HeldEmbedder.assets))

theorem storeEnvironment_yields (environment : Environment) :
    Yields (fun holdings engine => environment.Counted ∧ holdings.Kept ∧
      engine.Balanced (environment.assets + others holdings)) (storeEnvironment environment)
      (fun _ => Holdings.Settled) := by
  refine .ofModify ?_
  intro holdings engine reached
  obtain ⟨counted, kept, balanced⟩ := reached
  exact ⟨{ kept with environment := counted }, balanced⟩

/-- A task that changes nothing for the worse. -/
def Keeps (task : Task α) : Prop :=
  Yields Holdings.Settled task (fun _ => Holdings.Settled)

variable {before : Holdings → Engine → Prop}

theorem Yields.returning {task : Task α} {reply : α → β}
    (yielded : Yields before task (fun _ => Holdings.Settled)) :
    Yields before (task >>= fun value => pure (reply value)) (fun _ => Holdings.Settled) :=
  yielded.bind fun _ => .ofPure fun _ _ settled => settled

theorem lookup_yields (slot : Slot α) (name : String)
    (settled : ∀ holdings engine, before holdings engine → holdings.Settled engine) :
    Yields before (do Task.require .unknownName ((slot.table (← get)).find? name))
      (fun value holdings engine =>
        (slot.table holdings).find? name = some value ∧ before holdings engine) := by
  refine .bind .ofGet fun seen => ?_
  refine Yields.weaken (.ofRequire _ fun holdings engine reached => settled _ _ reached.2) ?_
  intro value holdings engine reached
  obtain ⟨found, rfl, holds⟩ := reached
  exact ⟨found, holds⟩

theorem storeSettings_keeps {ε : Type} {wrap : ε → ClientError}
    (change : Environment → Except ε Environment)
    (same : ∀ before after, change before = .ok after →
      after.runtime = before.runtime ∧ after.count = before.count) (reply : Reply) :
    Keeps (do
      let environment ← Task.ofExcept wrap (change (← get).environment)
      storeEnvironment environment
      return reply) := by
  refine .bind .ofGet fun seen => ?_
  refine .bind (.ofExcept _ fun _ _ reached => reached.2) fun environment => ?_
  have stored : Yields (fun holdings engine => change seen.environment = .ok environment ∧
      seen = holdings ∧ holdings.Settled engine) (storeEnvironment environment)
      (fun _ => Holdings.Settled) := by
    intro holdings engine reached
    obtain ⟨changed, rfl, settled⟩ := reached
    obtain ⟨runtime, count⟩ := same _ _ changed
    have counted : environment.Counted := by
      rw [Environment.Counted, runtime, count]
      exact settled.kept.environment
    have assets : environment.assets = seen.environment.assets := by
      rw [Environment.assets, Environment.assets, runtime]
    refine storeEnvironment_yields environment seen engine ⟨counted, settled.kept, ?_⟩
    rw [assets]
    exact settled.balanced
  exact stored.returning

theorem load_keeps : Keeps Client.load := by
  refine .bind .ofGet fun seen => ?_
  have loaded : Yields (fun holdings engine => seen = holdings ∧ holdings.Settled engine)
      (Task.ofAction .runtime (seen.environment.load seen.host))
      (fun environment holdings engine => environment.Counted ∧ holdings.Kept ∧
        engine.Balanced (environment.assets + others holdings)) := by
    refine .ofAction ?_
    intro holdings engine reached
    obtain ⟨rfl, settled⟩ := reached
    have traded := Environment.load_trades seen.host settled.kept.environment
    have reached := traded (others seen) engine settled.balanced
    cases ended : seen.environment.load seen.host engine with
    | ok environment after =>
        rw [ended] at reached
        exact ⟨reached.1, settled.kept, reached.2⟩
    | error error after =>
        rw [ended] at reached
        exact ⟨settled.kept, reached⟩
  exact .bind loaded storeEnvironment_yields

theorem unload_keeps : Keeps Client.unload := by
  refine .bind .ofGet fun seen => ?_
  have unloaded : Yields (fun holdings engine => seen = holdings ∧ holdings.Settled engine)
      (liftM seen.environment.unload : Task Environment)
      (fun environment holdings engine => environment.Counted ∧ holdings.Kept ∧
        engine.Balanced (environment.assets + others holdings)) := by
    refine .ofStep ?_
    intro holdings engine reached
    obtain ⟨rfl, settled⟩ := reached
    obtain ⟨counted, balanced⟩ :=
      Environment.unload_trades settled.kept.environment (others seen) engine settled.balanced
    exact ⟨counted, settled.kept, balanced⟩
  exact .bind unloaded storeEnvironment_yields

theorem loadTimes_keeps (count : Nat) : Keeps (loadTimes count) := by
  induction count with
  | zero => exact .ofPure fun _ _ settled => settled
  | succ count ih =>
      have once : Keeps (do Client.load; return 1) := load_keeps.returning
      exact .bind (.ofTryCatch once fun _ => .ofPure fun _ _ settled => settled)
        fun _ => ih.returning

theorem unloadTimes_keeps (count : Nat) : Keeps (unloadTimes count) := by
  induction count with
  | zero => exact .ofPure fun _ _ settled => settled
  | succ count ih => exact .bind unload_keeps fun _ => ih

/-- Something is part of what the client owns. -/
def Backed (part : Owned) (holdings : Holdings) (engine : Engine) : Prop :=
  holdings.Settled engine ∧ ∃ rest, holdings.assets = part + rest

theorem runtimeFor_yields (name : Option String)
    (settled : ∀ holdings engine, before holdings engine → holdings.Settled engine) :
    Yields before (runtimeFor name) (fun runtime holdings engine =>
      before holdings engine ∧ holdings.runtimeFor name = some runtime ∧
        Backed (reference runtime) holdings engine) := by
  refine .bind .ofGet fun seen => ?_
  cases name with
  | some name =>
      refine Yields.weaken (.ofRequire _ fun _ _ reached => settled _ _ reached.2) ?_
      intro runtime holdings engine reached
      obtain ⟨found, rfl, holds⟩ := reached
      have kept := settled _ _ holds
      exact ⟨holds, found, kept, _, runtimeSlot.assets_of_find? kept.kept found⟩
  | none =>
      refine Yields.weaken (.ofExcept _ fun _ _ reached => settled _ _ reached.2) ?_
      intro runtime holdings engine reached
      obtain ⟨loaded, rfl, holds⟩ := reached
      cases held : seen.environment.runtime with
      | none => simp [Environment.loaded, held] at loaded
      | some known =>
          have same : known = runtime := by simpa [Environment.loaded, held] using loaded
          subst same
          refine ⟨holds, held, settled _ _ holds, others seen, ?_⟩
          rw [Holdings.assets, Environment.assets, held, others]

/-- What is made now is made through the runtime that an operation works on. -/
def Working (runtime? : Holdings → Option Runtime) (holdings : Holdings) (engine : Engine) :
    Prop :=
  holdings.Settled engine ∧
    ∀ runtime, runtime? holdings = some runtime → Lineage.current runtime.environment

/-- A runtime that is backed, and through which things are made. -/
def Ready (runtime : Runtime) (holdings : Holdings) (engine : Engine) : Prop :=
  Lineage.current runtime.environment ∧ Backed (reference runtime) holdings engine

theorem workingRuntime_yields (name : Option String) :
    Yields (Working (·.runtimeFor name)) (runtimeFor name) Ready :=
  (runtimeFor_yields name fun _ _ working => working.1).weaken fun runtime _ _ reached =>
    ⟨reached.1.2 runtime reached.2.1, reached.2.2⟩

/-- What is made with a part of what the client owns is offered to the client. -/
theorem offered_yields {ε : Type} {wrap : ε → ClientError} {action : Action ε α} {slot : Slot β}
    {made : α → β} {part : Owned}
    (traded : TradesOr part action (fun value => slot.assets (made value) + part)
      (fun value => slot.good (made value)) part) :
    Yields (Backed part) (Task.ofAction wrap action) (fun value => slot.Offered (made value)) := by
  refine .ofAction ?_
  intro holdings engine reached
  obtain ⟨settled, rest, split⟩ := reached
  have balanced := settled.balanced
  rw [split] at balanced
  have reached := traded rest engine balanced
  cases ended : action engine with
  | ok value after =>
      rw [ended] at reached
      refine ⟨settled.kept, reached.1, ?_⟩
      rw [split, ← add_assoc]
      exact reached.2
  | error error after =>
      rw [ended] at reached
      refine ⟨settled.kept, ?_⟩
      rw [split]
      exact reached

theorem holdRuntime_keeps (name : String) : Keeps (holdRuntime name) := by
  refine .bind (runtimeFor_yields none fun _ _ settled => settled) fun runtime => ?_
  have retained : Yields (Backed (reference runtime)) (liftM runtime.retain : Task Unit)
      (fun _ => runtimeSlot.Offered runtime) := by
    refine .ofStep ?_
    intro holdings engine reached
    obtain ⟨settled, rest, split⟩ := reached
    have balanced := settled.balanced
    rw [split] at balanced
    have after := (retain_trades rest engine balanced).2
    rw [add_assoc, ← split] at after
    exact ⟨settled.kept, trivial, after⟩
  exact .bind (retained.strengthen fun _ _ reached => reached.2.2) fun _ =>
    (keepRuntime_yields name runtime).returning

theorem buildTensor_trades {runtime : Runtime} (current : Lineage.current runtime.environment)
    (shape : Shape) (element : ElementType) (cells : Option (List element.Cell)) :
    TradesOr (reference runtime) (buildTensor runtime shape element cells)
      (fun tensor => tensor.assets + reference runtime) Tensor.Whole (reference runtime) := by
  cases cells with
  | none => exact Tensor.zeros_trades current shape
  | some cells => exact Tensor.create_trades current shape cells

theorem createTensor_yields (name : String) (element : ElementType) (source : ShapeSource)
    (cells : Option (List element.Cell)) (runtime : Option String) :
    Yields (Working (·.runtimeFor runtime)) (createTensor name element source cells runtime)
      (fun _ => Holdings.Settled) := by
  refine .bind (workingRuntime_yields runtime) fun runtime => ?_
  refine .bind (.ofExcept _ fun _ _ ready => ready.2.1) fun shape => ?_
  have built : Yields (Ready runtime)
      (Task.ofAction .runtime (buildTensor runtime shape element cells))
      (fun tensor => tensorSlot.Offered ⟨element, tensor⟩) :=
    .assuming (fun _ _ ready => ready.1) fun current =>
      (offered_yields (buildTensor_trades current shape element cells)).strengthen
        fun _ _ ready => ready.2
  refine .bind (built.strengthen fun _ _ reached => reached.2) fun tensor => ?_
  exact (keepTensor_yields name ⟨element, tensor⟩).returning

theorem writeTensor_keeps (name : String) (position : Nat)
    (value : (element : ElementType) → element.Cell) : Keeps (writeTensor name position value) := by
  refine .bind (lookup_yields tensorSlot name fun _ _ settled => settled) fun held => ?_
  refine .assuming (fun _ _ reached => tensorSlot.good_of_find? reached.2.kept reached.1)
    fun whole => ?_
  have stored := storeTensor_yields name ⟨held.element, held.tensor.set position (value _)⟩ whole
  exact (stored.strengthen fun _ _ reached => Slot.open_of_find? held reached.2 reached.1).returning

theorem destroyTensor_keeps (name : String) : Keeps (destroyTensor name) := by
  refine .bind (lookup_yields tensorSlot name fun _ _ settled => settled) fun held => ?_
  have destroyed : Yields (fun holdings engine =>
      (tensorSlot.table holdings).find? name = some held ∧ holdings.Settled engine)
      (liftM held.tensor.destroy : Task (Tensor held.element))
      (fun tensor holdings engine => tensor = Tensor.destroyed ∧
        tensorSlot.Open name 0 holdings engine) := by
    refine .ofStep ?_
    intro holdings engine reached
    obtain ⟨found, settled⟩ := reached
    exact (Slot.open_of_find? held settled found).trade
      (Tensor.destroy_trades (tensorSlot.good_of_find? settled.kept found))
  refine .bind destroyed fun tensor => .assuming (fun _ _ reached => reached.1) fun gone => ?_
  subst gone
  have stored := storeTensor_yields name ⟨held.element, Tensor.destroyed⟩ rfl
  exact (stored.strengthen fun _ _ reached => reached.2).returning

end Task

end TextVectors.Client

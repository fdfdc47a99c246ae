import Mathlib.Data.List.Forall2
import TextVectors.Proofs.Client.Tasks

namespace TextVectors.Client

/-! Sessions and embedders of a client, and the step of one operation. -/

open Inference Owned

namespace Task

variable {α β : Type}

theorem holds_of_find? {slot : Slot α} {holdings : Holdings} {value : α} {handle : Handle}
    (kept : holdings.Kept) (found : (slot.table holdings).find? name = some value)
    (held : (slot.assets value).Holds handle) : holdings.assets.Holds handle := by
  rw [slot.assets_of_find? kept found]
  exact held.add _

theorem find?_of_lookups {slot : Slot α} {holdings : Holdings} {names : List String}
    {values : List α} {value : α}
    (found : List.Forall₂ (fun name value => (slot.table holdings).find? name = some value)
      names values) (member : value ∈ values) :
    ∃ name, (slot.table holdings).find? name = some value := by
  induction found with
  | nil => cases member
  | cons head rest ih =>
      rcases List.mem_cons.mp member with rfl | later
      · exact ⟨_, head⟩
      · exact ih later

theorem holds_values {holdings : Holdings} (kept : holdings.Kept) {names : List String}
    {values : List AnyTensor}
    (found : List.Forall₂ (fun name value => (tensorSlot.table holdings).find? name = some value)
      names values) {handle : Handle} (live : some handle ∈ values.map valueOf) :
    holdings.assets.Holds handle := by
  obtain ⟨held, member, value⟩ := List.mem_map.mp live
  obtain ⟨name, known⟩ := find?_of_lookups found member
  exact holds_of_find? kept known
    (Tensor.holds_value (tensorSlot.good_of_find? kept known) value)

variable [Lineage] {before : Holdings → Engine → Prop} {name : String}

theorem lookups_yields (slot : Slot α) (names : List String)
    (settled : ∀ holdings engine, before holdings engine → holdings.Settled engine) :
    Yields before
      (names.mapM fun name => do Task.require .unknownName ((slot.table (← get)).find? name))
      (fun values holdings engine =>
        List.Forall₂ (fun name value => (slot.table holdings).find? name = some value) names values ∧
          before holdings engine) := by
  induction names generalizing before with
  | nil => exact .ofPure fun _ _ holds => ⟨.nil, holds⟩
  | cons name rest ih =>
      rw [List.mapM_cons]
      refine .bind (lookup_yields slot name settled) fun value => ?_
      refine .bind (ih fun holdings engine reached => settled holdings engine reached.2)
        fun values => .ofPure ?_
      intro holdings engine reached
      obtain ⟨others, found, holds⟩ := reached
      exact ⟨.cons found others, holds⟩

theorem readOptions_yields (options : Option Json)
    (settled : ∀ holdings engine, before holdings engine → holdings.Settled engine) :
    Yields before (readOptions options) (fun _ => before) := by
  cases options with
  | none => exact .ofPure fun _ _ holds => holds
  | some options =>
      exact Yields.weaken (.ofRequire _ settled) fun _ _ _ reached => reached.2

theorem createSession_yields (name model : String) (inputNames outputNames : List String)
    (tensors : TensorNames) (options : Option Json) (runtime : Option String) :
    Yields (Working (·.runtimeFor runtime))
      (createSession name model inputNames outputNames tensors options runtime)
      (fun _ => Holdings.Settled) := by
  refine .bind (lookups_yields tensorSlot _ fun _ _ working => working.1) fun inputs => ?_
  refine .bind (lookups_yields tensorSlot _ fun _ _ reached => reached.2.1) fun outputs => ?_
  refine .bind (readOptions_yields options fun _ _ reached => reached.2.2.1) fun options => ?_
  refine .bind ((workingRuntime_yields runtime).strengthen fun _ _ reached => reached.2.2)
    fun runtime => ?_
  refine .bind .ofGet fun seen => ?_
  have created : Yields (Ready runtime)
      (Task.ofAction .runtime (Session.create seen.host runtime
        { modelPath := model
          inputNames
          outputNames
          inputs := inputs.map valueOf
          outputs := outputs.map valueOf } options))
      (fun session => sessionSlot.Offered session) :=
    .assuming (fun _ _ ready => ready.1) fun current =>
      (offered_yields (Session.create_trades current seen.host _ options)).strengthen
        fun _ _ ready => ready.2
  refine .bind (created.strengthen fun _ _ reached => reached.2) fun session => ?_
  exact (keepSession_yields name session).returning

theorem destroySession_keeps (name : String) : Keeps (destroySession name) := by
  refine .bind (lookup_yields sessionSlot name fun _ _ settled => settled) fun held => ?_
  have destroyed : Yields (fun holdings engine =>
      (sessionSlot.table holdings).find? name = some held ∧ holdings.Settled engine)
      (liftM held.destroy : Task Session)
      (fun session => sessionSlot.Open name session.assets) := by
    refine .ofStep ?_
    intro holdings engine reached
    obtain ⟨found, settled⟩ := reached
    exact ((Slot.open_of_find? held settled found).trade (Session.destroy_trades held)).2
  exact .bind destroyed fun session => (storeSession_yields name session).returning

theorem checkExclusive_yields (tensors : TensorNames)
    (settled : ∀ holdings engine, before holdings engine → holdings.Settled engine) :
    Yields before (checkExclusive tensors) (fun _ => before) := by
  unfold checkExclusive
  split
  · exact .ofThrow settled
  · exact .ofPure fun _ _ holds => holds

/-- Outputs still stand under their names, with the values they were looked up with. -/
def Standing (pairs : List (String × AnyTensor)) (holdings : Holdings) (engine : Engine) : Prop :=
  holdings.Settled engine ∧ ∀ pair ∈ pairs, pair.2.tensor.Whole ∧
    ∃ current, holdings.tensors.find? pair.1 = some current ∧
      tensorAssets current = tensorAssets pair.2

theorem receiveOutputs_yields (effect : RunEffect) (position : Nat)
    (pairs : List (String × AnyTensor)) :
    Yields (Standing pairs) (receiveOutputs effect position pairs) (fun _ => Holdings.Settled) := by
  induction pairs generalizing position with
  | nil => exact .ofPure fun _ _ standing => standing.1
  | cons pair rest ih =>
      obtain ⟨name, held⟩ := pair
      let received : AnyTensor := ⟨held.element, held.tensor.receive effect position⟩
      have stored : Yields (Standing ((name, held) :: rest)) (storeTensor name received)
          (fun _ => Standing rest) := by
        refine .ofModify ?_
        intro holdings engine reached
        obtain ⟨settled, standing⟩ := reached
        obtain ⟨whole, current, found, same⟩ := standing _ List.mem_cons_self
        have opened : tensorSlot.Open name (tensorSlot.assets current) holdings engine :=
          Slot.open_of_find? current settled found
        have openedSame : tensorSlot.Open name (tensorSlot.assets received) holdings engine := by
          rw [show tensorSlot.assets received = tensorSlot.assets current from same.symm]
          exact opened
        refine ⟨openedSame.put whole, ?_⟩
        intro pair member
        obtain ⟨pairWhole, other, known, otherSame⟩ := standing pair (List.mem_cons_of_mem _ member)
        refine ⟨pairWhole, ?_⟩
        by_cases again : pair.1 = name
        · refine ⟨received, ?_, ?_⟩
          · rw [again]
            exact NameTable.find?_put holdings.tensors name received
          · rw [again, found] at known
            cases known
            exact same.symm.trans otherSame
        · exact ⟨other, (NameTable.find?_put_of_ne holdings.tensors received again).trans known,
            otherSame⟩
      exact .bind stored fun _ => (ih (position + 1)).returning

theorem runSession_keeps (name : String) (tensors : TensorNames) :
    Keeps (runSession name tensors) := by
  refine .bind (lookup_yields sessionSlot name fun _ _ settled => settled) fun session => ?_
  refine .bind (checkExclusive_yields tensors fun _ _ reached => reached.2) fun _ => ?_
  refine .bind (lookups_yields tensorSlot _ fun _ _ reached => reached.2) fun inputs => ?_
  refine .bind (lookups_yields tensorSlot _ fun _ _ reached => reached.2.2) fun outputs => ?_
  have ran : Yields (fun holdings engine => List.Forall₂ (fun name value =>
        (tensorSlot.table holdings).find? name = some value) tensors.outputs outputs ∧
      List.Forall₂ (fun name value => (tensorSlot.table holdings).find? name = some value)
        tensors.inputs inputs ∧
      (sessionSlot.table holdings).find? name = some session ∧ holdings.Settled engine)
      (liftM (attempt (session.run (inputs.map operandOf) (outputs.map valueOf))) :
        Task (Except FailedRun RunEffect))
      (fun _ => Standing (tensors.outputs.zip outputs)) := by
    refine .ofStep ?_
    intro holdings engine reached
    obtain ⟨outputsFound, inputsFound, found, settled⟩ := reached
    have traded : TradesOr holdings.assets (session.run (inputs.map operandOf)
        (outputs.map valueOf)) (fun _ => holdings.assets) (fun _ => True) holdings.assets := by
      refine Session.run_trades ?_ ?_ ?_
      · intro handle live
        refine holds_of_find? settled.kept found ?_
        simp only [sessionSlot, Session.assets, live, handles_some]
        exact holds_stake _ (Multiset.mem_singleton_self handle)
      · intro handle live
        rw [List.map_map] at live
        exact holds_values settled.kept inputsFound live
      · exact fun handle live => holds_values settled.kept outputsFound live
    have standing : ∀ pair ∈ tensors.outputs.zip outputs, pair.2.tensor.Whole ∧
        ∃ current, holdings.tensors.find? pair.1 = some current ∧
          tensorAssets current = tensorAssets pair.2 := by
      intro reached member
      obtain ⟨name, held⟩ := reached
      have known := (List.forall₂_iff_zip.mp outputsFound).2 member
      exact ⟨tensorSlot.good_of_find? settled.kept known, held, known, rfl⟩
    have balanced := (traded.trades_attempt_same 0 engine (by
      rw [add_zero]
      exact settled.balanced)).2
    rw [add_zero] at balanced
    exact ⟨⟨settled.kept, balanced⟩, standing⟩
  refine .bind ran fun ran => .bind (receiveOutputs_yields (FailedRun.left ran) 0 _) fun _ => ?_
  exact .bind (.ofExcept ran fun _ _ settled => settled) fun _ => .ofPure fun _ _ reached =>
    reached.2

theorem openEmbedder_yields {ε : Type} {wrap : ε → ClientError} {action : Action ε (α × Bool)}
    {embedder : α → Embedder} (traded : TradesOr 0 action
      (fun made => cachedAssets (embedder made.1).sessions)
      (fun made => SessionsKept (embedder made.1).sessions) 0) :
    Yields Holdings.Settled (Task.ofAction wrap action)
      (fun made => embedderSlot.Offered ⟨embedder made.1, made.2⟩) := by
  have offered : TradesOr 0 action (fun made => HeldEmbedder.assets ⟨embedder made.1, made.2⟩ + 0)
      (fun made => SessionsKept (embedder made.1).sessions) 0 :=
    traded.within 0 (add_zero 0).symm (add_zero 0) (fun _ _ => rfl) fun _ kept => kept
  have yielded : Yields (Backed 0) (Task.ofAction wrap action)
      (fun made => embedderSlot.Offered ⟨embedder made.1, made.2⟩) := offered_yields offered
  exact yielded.strengthen fun holdings _ settled => ⟨settled, holdings.assets, (zero_add _).symm⟩

theorem openedFrom_trades {C E ρ : Type} (kind : EmbedderKind C E ρ) (host : Host) (model : String)
    (tokenizer : TokenizerSource) (config : C) :
    TradesOr 0 (openedFrom kind host model tokenizer config)
      (fun made => cachedAssets (kind.sessions made.1))
      (fun made => SessionsKept (kind.sessions made.1)) 0 := by
  cases tokenizer with
  | file path =>
      exact (kind.fromFiles_trades host model path config).map (fun _ => rfl) fun _ kept => kept
  | given tokenizer =>
      exact (kind.withTokenizer_trades host model tokenizer config).map (fun _ => rfl)
        fun _ kept => kept

theorem openEmbedder_keeps {C E ρ : Type} (kind : EmbedderKind C E ρ) (wrap : E → Embedder)
    (same : ∀ embedder, (wrap embedder).sessions = kind.sessions embedder) (name model : String)
    (tokenizer : TokenizerSource) (config : C) :
    Keeps (openEmbedder kind wrap name model tokenizer config) := by
  refine .bind .ofGet fun seen => ?_
  have opened : Yields Holdings.Settled
      (Task.ofAction .embedding (openedFrom kind seen.host model tokenizer config))
      (fun made => embedderSlot.Offered ⟨wrap made.1, made.2⟩) := by
    apply openEmbedder_yields
    simp only [same]
    exact openedFrom_trades kind seen.host model tokenizer config
  refine .bind (opened.strengthen fun _ _ reached => reached.2) fun made => ?_
  exact (keepEmbedder_yields name ⟨wrap made.1, made.2⟩).returning

theorem openDense_keeps (name model : String) (tokenizer : TokenizerSource) (config : Json) :
    Keeps (openDense name model tokenizer config) := by
  refine .bind (.ofRequire _ fun _ _ settled => settled) fun config => ?_
  have opened := openEmbedder_keeps DenseEmbedder.kind .dense (fun _ => rfl) name model
    tokenizer config
  exact (opened.strengthen fun _ _ reached => reached.2).returning

theorem openSparse_keeps (name model : String) (tokenizer : TokenizerSource) (config : Json)
    (preProcessor : Option PreProcessor) :
    Keeps (openSparse name model tokenizer config preProcessor) := by
  refine .bind (.ofRequire _ fun _ _ settled => settled) fun config => ?_
  have opened := openEmbedder_keeps SparseEmbedder.kind .sparse (fun _ => rfl) name model
    tokenizer config
  exact (opened.strengthen fun _ _ reached => reached.2).returning

/-- Work of an embedder while the environment keeps its runtime. -/
theorem embedder_yields {held : HeldEmbedder} {seen : Holdings} {step : Step α}
    {sessions : α → SessionCache BatchSession}
    (traded : SessionsKept held.embedder.sessions → Current seen.environment →
      Trades (held.assets + seen.environment.assets) step
        (fun result => cachedAssets (sessions result) + seen.environment.assets)
        (fun result => SessionsKept (sessions result))) :
    Yields (fun holdings engine => seen = holdings ∧
        (embedderSlot.table holdings).find? name = some held ∧
        Working (·.environment.runtime) holdings engine)
      (liftM step : Task α) (fun result holdings engine => SessionsKept (sessions result) ∧
        embedderSlot.Open name (cachedAssets (sessions result)) holdings engine) := by
  refine .ofStep ?_
  intro holdings engine reached
  obtain ⟨rfl, found, settled, current⟩ := reached
  have opened : embedderSlot.Open name held.assets seen engine :=
    Slot.open_of_find? held settled found
  have split : (embedderSlot.erase seen name).assets = seen.environment.assets +
      others (embedderSlot.erase seen name) := rfl
  have balanced := opened.balanced
  rw [split, ← add_assoc] at balanced
  obtain ⟨kept, after⟩ :=
    traded (embedderSlot.good_of_find? settled.kept found) current _ engine balanced
  rw [add_assoc, ← split] at after
  exact ⟨kept, opened.kept, after⟩

theorem closed_yields {held : HeldEmbedder} {step : Step α}
    {sessions : α → SessionCache BatchSession}
    (traded : SessionsKept held.embedder.sessions →
      Trades held.assets step (fun result => cachedAssets (sessions result))
        (fun result => SessionsKept (sessions result))) :
    Yields (fun holdings engine => (embedderSlot.table holdings).find? name = some held ∧
        holdings.Settled engine)
      (liftM step : Task α) (fun result holdings engine => SessionsKept (sessions result) ∧
        embedderSlot.Open name (cachedAssets (sessions result)) holdings engine) := by
  refine .ofStep ?_
  intro holdings engine reached
  obtain ⟨found, settled⟩ := reached
  have opened : embedderSlot.Open name held.assets holdings engine :=
    Slot.open_of_find? held settled found
  exact opened.trade (traded (embedderSlot.good_of_find? settled.kept found))

/-- What an operation leaves of an embedder goes back under its name. -/
theorem putBack_yields {E : Type} {before : Holdings → Engine → Prop} {wrap : E → HeldEmbedder}
    {operation : Step (Except EmbeddingError α × E)}
    (worked : Yields before (liftM operation : Task (Except EmbeddingError α × E))
      (fun result holdings engine => SessionsKept (wrap result.2).embedder.sessions ∧
        embedderSlot.Open name (wrap result.2).assets holdings engine)) :
    Yields before (putBack name wrap operation) (fun _ => Holdings.Settled) := by
  refine .bind worked fun reached => ?_
  obtain ⟨result, after⟩ := reached
  refine .assuming (fun _ _ reached => reached.1) fun kept => ?_
  refine .bind ((storeEmbedder_yields name (wrap after) kept).strengthen fun _ _ reached =>
    reached.2) fun _ => ?_
  exact (Yields.ofExcept result fun _ _ settled => settled).weaken fun _ _ _ reached => reached.2

/-- An operation on an embedder leaves all accounted for if what it leaves of the embedder is. -/
theorem onEmbedder_yields {before : Holdings → Engine → Prop}
    {dense : DenseEmbedder → Holdings → Step (Except EmbeddingError α × DenseEmbedder)}
    {sparse : SparseEmbedder → Holdings → Step (Except EmbeddingError β × SparseEmbedder)}
    {denseReply : α → Reply} {sparseReply : β → Reply}
    (settled : ∀ holdings engine, before holdings engine → holdings.Settled engine)
    (denseWorks : ∀ embedder own seen,
      Yields (fun holdings engine => seen = holdings ∧
          (embedderSlot.table holdings).find? name = some ⟨.dense embedder, own⟩ ∧
          before holdings engine)
        (liftM (dense embedder seen) : Task (Except EmbeddingError α × DenseEmbedder))
        (fun result holdings engine => SessionsKept result.2.sessions ∧
          embedderSlot.Open name (cachedAssets result.2.sessions) holdings engine))
    (sparseWorks : ∀ embedder own seen,
      Yields (fun holdings engine => seen = holdings ∧
          (embedderSlot.table holdings).find? name = some ⟨.sparse embedder, own⟩ ∧
          before holdings engine)
        (liftM (sparse embedder seen) : Task (Except EmbeddingError β × SparseEmbedder))
        (fun result holdings engine => SessionsKept result.2.sessions ∧
          embedderSlot.Open name (cachedAssets result.2.sessions) holdings engine)) :
    Yields before (onEmbedder name dense sparse denseReply sparseReply)
      (fun _ => Holdings.Settled) := by
  refine .bind (lookup_yields embedderSlot name settled) fun held => .bind .ofGet fun seen => ?_
  obtain ⟨embedder, own⟩ := held
  cases embedder with
  | dense embedder => exact (putBack_yields (denseWorks embedder own seen)).returning
  | sparse embedder => exact (putBack_yields (sparseWorks embedder own seen)).returning

theorem embed_yields (name : String) (documents : List String) :
    Yields (Working (·.environment.runtime)) (embed name documents)
      (fun _ => Holdings.Settled) := by
  refine onEmbedder_yields (fun _ _ working => working.1) (fun embedder own seen => ?_)
    fun embedder own seen => ?_
  · exact embedder_yields fun kept current => EmbedderKind.embedDocuments_trades
      DenseEmbedder.work_accounted kept seen.host current documents
  · exact embedder_yields fun kept current => EmbedderKind.embedDocuments_trades
      SparseEmbedder.work_accounted kept seen.host current documents

theorem query_yields (name text : String) :
    Yields (Working (·.environment.runtime)) (query name text) (fun _ => Holdings.Settled) := by
  refine onEmbedder_yields (fun _ _ working => working.1) (fun embedder own seen => ?_)
    fun embedder own seen => ?_
  · exact embedder_yields fun kept current => EmbedderKind.embedQuery_trades
      DenseEmbedder.work_accounted kept seen.host current text
  · exact embedder_yields fun kept current => EmbedderKind.embedQuery_trades
      SparseEmbedder.work_accounted kept seen.host current text

theorem close_keeps (name : String) : Keeps (close name) := by
  refine onEmbedder_yields (fun _ _ settled => settled) (fun embedder own seen => ?_)
    fun embedder own seen => ?_
  · refine Yields.strengthen (closed_yields fun kept => ?_) fun _ _ reached => reached.2
    exact DenseEmbedder.kind.close_trades embedder kept
  · refine Yields.strengthen (closed_yields fun kept => ?_) fun _ _ reached => reached.2
    exact SparseEmbedder.kind.close_trades embedder kept

theorem discard_keeps (name : String) : Keeps (discard name) := by
  refine .bind .ofGet fun seen => ?_
  intro holdings engine reached
  obtain ⟨rfl, settled⟩ := reached
  cases runtime : seen.runtime? name with
  | some value => exact Slot.discard_settled letGo_drops settled runtime
  | none =>
      cases session : seen.session? name with
      | some value => exact Slot.discard_settled discardSession_drops settled session
      | none =>
          cases tensor : seen.tensor? name with
          | some value => exact Slot.discard_settled discardTensor_drops settled tensor
          | none =>
              cases embedder : seen.embedder? name with
              | some value => exact Slot.discard_settled discardEmbedder_drops settled embedder
              | none => exact settled

theorem describe_keeps (name : String) :
    Keeps (do return Reply.description ((← get).describe name)) :=
  .bind .ofGet fun _ => .ofPure fun _ _ reached => reached.2

theorem task_yields (operation : Operation) :
    Yields (Working operation.runtime?) (task operation) (fun _ => Holdings.Settled) := by
  have plain {task : Task Reply} (keeps : Keeps task) {runtime? : Holdings → Option Runtime} :
      Yields (Working runtime?) task (fun _ => Holdings.Settled) :=
    keeps.strengthen fun _ _ working => working.1
  cases operation with
  | inspect => exact .ofPure fun _ _ working => working.1
  | setLibraryPath path =>
      exact plain (storeSettings_keeps (·.setLibraryPath path)
        (fun _ _ set => setLibraryPath_same set) _)
  | setLogLevel level =>
      refine .bind (.ofRequire _ fun _ _ working => working.1) fun level => ?_
      exact (storeSettings_keeps (·.setLogLevel level)
        (fun _ _ set => setLogLevel_same set) _).strengthen fun _ _ reached => reached.2.1
  | load => exact plain load_keeps.returning
  | unload => exact plain unload_keeps.returning
  | loadTimes count => exact plain (loadTimes_keeps count).returning
  | unloadTimes count => exact plain (unloadTimes_keeps count).returning
  | holdRuntime name => exact plain (holdRuntime_keeps name)
  | createTensor name element shape cells runtime =>
      exact createTensor_yields name element shape cells runtime
  | readTensor name =>
      exact .bind (lookup_yields tensorSlot name fun _ _ working => working.1) fun _ =>
        .ofPure fun _ _ reached => reached.2.1
  | writeTensor name position value => exact plain (writeTensor_keeps name position value)
  | destroyTensor name => exact plain (destroyTensor_keeps name)
  | createSession name model inputNames outputNames tensors options runtime =>
      exact createSession_yields name model inputNames outputNames tensors options runtime
  | readSession name =>
      exact .bind (lookup_yields sessionSlot name fun _ _ working => working.1) fun _ =>
        .ofPure fun _ _ reached => reached.2.1
  | destroySession name => exact plain (destroySession_keeps name)
  | runSession name tensors => exact plain (runSession_keeps name tensors)
  | openDense name model tokenizer config =>
      exact plain (openDense_keeps name model tokenizer config)
  | openSparse name model tokenizer config preProcessor =>
      exact plain (openSparse_keeps name model tokenizer config preProcessor)
  | embed name documents => exact embed_yields name documents
  | query name text => exact query_yields name text
  | close name => exact plain (close_keeps name)
  | discard name => exact plain (discard_keeps name)
  | describe name => exact plain (describe_keeps name)

end Task

end TextVectors.Client

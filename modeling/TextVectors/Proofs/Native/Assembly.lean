import TextVectors.Proofs.Embedding.Running
import TextVectors.Proofs.Native.Stacking

namespace TextVectors

/-! Batch sessions are put together and taken apart like a stack.

The tensors are created one after the other and the session on top of them.  The first part that
cannot be created is the error, and the parts below it are taken off again.  What was put together
is taken apart from the session down.
-/

open Inference History

namespace Inference.SessionRequest

variable {request : SessionRequest} {inputs outputs : List Binding}

theorem Binds.values (binds : request.Binds inputs outputs) :
    inputs.map (some ·.value) = request.inputs ∧ outputs.map (some ·.value) = request.outputs := by
  obtain ⟨⟨ins, insHeld, insNamed, rfl⟩, ⟨outs, outsHeld, outsNamed, rfl⟩⟩ := binds
  rw [insHeld, outsHeld]
  exact ⟨values_zipWith_mk _ _ insNamed, values_zipWith_mk _ _ outsNamed⟩

end Inference.SessionRequest

variable {α β : Type}

namespace BatchSession

variable {runtime : Runtime} {bundle : BatchSession} {binding : ModelBinding}
variable {ids mask : Tensor .int64} {types : Option (Tensor .int64)} {output : Tensor .float}

/-- The values that the session is bound to: those of its inputs, and then that of its output. -/
def bound (bundle : BatchSession) : List Handle :=
  (bundle.session.inputs ++ bundle.session.outputs).map (·.value)

/-- Tensors that were created on a runtime, with a session that was created upon them. -/
structure Standing (runtime : Runtime) (bundle : BatchSession) : Prop where
  ids : bundle.ids.Made runtime
  mask : bundle.mask.Made runtime
  types : ∀ tensor ∈ bundle.types, tensor.Made runtime
  output : bundle.output.Made runtime
  runtime : bundle.session.runtime = runtime
  session : ∃ handle, bundle.session.handle = some handle ∧ handle.kind = .session
  bound : bundle.held = bundle.session.held ++ bundle.bound.reverse

theorem heldByTypes_no_session (made : ∀ tensor ∈ types, tensor.Made runtime) :
    ∀ handle ∈ heldByTypes types, handle.kind ≠ .session := by
  cases types with
  | none => exact nofun
  | some tensor => exact (made tensor rfl).no_session

theorem Standing.values_no_session (standing : bundle.Standing runtime) :
    ∀ handle ∈ bundle.output.held ++
      (heldByTypes bundle.types ++ (bundle.mask.held ++ bundle.ids.held)), handle.kind ≠ .session :=
  List.forall_mem_append.mpr ⟨standing.output.no_session, List.forall_mem_append.mpr
    ⟨heldByTypes_no_session standing.types, List.forall_mem_append.mpr
      ⟨standing.mask.no_session, standing.ids.no_session⟩⟩⟩

theorem Standing.on_top (standing : bundle.Standing runtime) :
    ∃ session, bundle.session.handle = some session ∧ session.kind = .session ∧
      bundle.held = session :: bundle.bound.reverse := by
  obtain ⟨session, live, kind⟩ := standing.session
  refine ⟨session, live, kind, ?_⟩
  rw [standing.bound, Session.held, live]
  rfl

theorem Standing.lasting (standing : bundle.Standing runtime) :
    ∀ handle ∈ bundle.held, handle.kind.lasting = true := by
  have tensor {element : ElementType} {tensor : Tensor element} (made : tensor.Made runtime) :
      ∀ handle ∈ tensor.held, handle.kind.lasting = true := by
    obtain ⟨value, -, kind, held⟩ := made.held
    rw [held]
    intro handle member
    rw [List.mem_singleton.mp member, kind]
    rfl
  have session : ∀ handle ∈ bundle.session.held, handle.kind.lasting = true := by
    obtain ⟨session, live, kind⟩ := standing.session
    rw [Session.held, live]
    intro handle member
    rw [List.mem_singleton.mp member, kind]
    rfl
  have types : ∀ handle ∈ heldByTypes bundle.types, handle.kind.lasting = true := by
    cases typed : bundle.types with
    | none => exact List.forall_mem_nil _
    | some given => exact tensor (standing.types given typed)
  exact List.forall_mem_append.mpr ⟨session, List.forall_mem_append.mpr ⟨tensor standing.output,
    List.forall_mem_append.mpr ⟨types, List.forall_mem_append.mpr
      ⟨tensor standing.mask, tensor standing.ids⟩⟩⟩⟩

/-- A session that was created upon tensors holds their values in the order in which they were
created. -/
theorem standing_of_made {batch sequenceLength : Nat} {session : Session}
    (idsMade : ids.Made runtime) (maskMade : mask.Made runtime)
    (typesMade : ∀ tensor ∈ types, tensor.Made runtime) (outputMade : output.Made runtime)
    (made : session.Made runtime (request binding ids mask types output)) :
    Standing runtime { batch, sequenceLength, ids, mask, types, output, session } := by
  obtain ⟨inputs, outputs⟩ := made.binds.values
  obtain ⟨first, one, -, heldIds⟩ := idsMade.held
  obtain ⟨second, two, -, heldMask⟩ := maskMade.held
  obtain ⟨result, last, -, heldOutput⟩ := outputMade.held
  refine ⟨idsMade, maskMade, typesMade, outputMade, made.runtime, made.live, ?_⟩
  have values : (session.inputs ++ session.outputs).map (some ·.value) =
      ((ids.held ++ (mask.held ++ heldByTypes types)) ++ output.held).map some := by
    rw [List.map_append, inputs, outputs, heldIds, heldMask, heldOutput]
    simp only [request, one, two, last]
    cases types with
    | none => rfl
    | some tensor =>
        obtain ⟨third, three, -, heldTypes⟩ := (typesMade tensor rfl).held
        simp [heldByTypes, heldTypes, three]
  have same : (session.inputs ++ session.outputs).map (·.value) =
      (ids.held ++ (mask.held ++ heldByTypes types)) ++ output.held := by
    refine (List.map_inj_right fun _ _ => Option.some.inj).mp ?_
    rw [List.map_map]
    exact values
  simp only [held, bound, same, heldIds, heldMask, heldOutput]
  cases types with
  | none => rfl
  | some tensor =>
      obtain ⟨third, -, -, heldTypes⟩ := (typesMade tensor rfl).held
      simp [heldByTypes, heldTypes]

theorem destroyTensor_clears {element : ElementType} {tensor : Tensor element}
    (made : tensor.Made runtime) (root : runtime.environment.kind = .environment) :
    Clears tensor.held (destroyTensor tensor) :=
  .bindLast (made.destroy_clears root) fun _ => .ofPure ()

theorem destroyTypes_clears (made : ∀ tensor ∈ types, tensor.Made runtime)
    (root : runtime.environment.kind = .environment) :
    Clears (heldByTypes types) (destroyTypes types) := by
  cases types with
  | none => exact .ofPure ()
  | some tensor => exact destroyTensor_clears (made tensor rfl) root

/-- Every part is created upon those before it. -/
theorem create_piles (host : Host) (root : runtime.environment.kind = .environment)
    (binding : ModelBinding) (batch : Nat) (outputShape : List Int) :
    Piles [] (create host runtime binding batch outputShape) held (Standing runtime) := by
  have tokens (shape : Shape) (name : String) :
      Piles [] (tokenTensor runtime shape name) Tensor.held (Tensor.Made runtime) :=
    .ofMapFailure (Tensor.zeros_piles runtime shape)
  unfold create
  refine .bind (.ofMapFailure (.ofExcept _)) (fun _ _ => nofun) fun rows _ => ?_
  refine .bind (.ofMapFailure (.ofExcept _)) (fun _ _ => nofun) fun columns _ => ?_
  refine .bind (tokens _ _) (fun _ made => made.no_session) fun ids idsMade => ?_
  have dropIds := destroyTensor_clears idsMade root
  refine .bind ((tokens _ _).orCleanUp dropIds) (fun _ made => ?_) fun mask maskMade => ?_
  · exact List.forall_mem_append.mpr ⟨made.no_session, idsMade.no_session⟩
  dsimp only
  have inputValues := List.forall_mem_append.mpr ⟨maskMade.no_session, idsMade.no_session⟩
  have dropInputs := (destroyTensor_clears maskMade root).bind fun _ => dropIds
  have typed : Piles (mask.held ++ ids.held)
      (if binding.usesTokenTypes then
        some <$> orCleanUp (do destroyTensor mask; destroyTensor ids)
          (tokenTensor runtime ⟨[rows, columns]⟩ "token_type_ids")
      else pure none)
      (fun types => heldByTypes types ++ (mask.held ++ ids.held))
      (fun types => ∀ tensor ∈ types, tensor.Made runtime) := by
    split
    · refine .bind ((tokens _ _).orCleanUp dropInputs) (fun _ made => ?_) fun tensor made => ?_
      · exact List.forall_mem_append.mpr ⟨made.no_session, inputValues⟩
      · refine .ofPure rfl ?_
        rintro _ ⟨⟩
        exact made
    · exact .ofPure rfl nofun
  rw [ite_bind]
  refine .bind typed (fun types made => ?_) fun types typesMade => ?_
  · exact List.forall_mem_append.mpr ⟨heldByTypes_no_session made, inputValues⟩
  have tokenValues := List.forall_mem_append.mpr ⟨heldByTypes_no_session typesMade, inputValues⟩
  have dropTokens := (destroyTypes_clears typesMade root).bind fun _ => dropInputs
  have outputs : Piles []
      (mapFailure (failing "failed to create output tensor")
        (Tensor.zeros .float runtime ⟨outputShape⟩)) Tensor.held (Tensor.Made runtime) :=
    .ofMapFailure (Tensor.zeros_piles _ _)
  refine .bind (outputs.orCleanUp dropTokens) (fun _ made => ?_) fun output outputMade => ?_
  · exact List.forall_mem_append.mpr ⟨made.no_session, tokenValues⟩
  have dropAll := (destroyTensor_clears outputMade root).bind fun _ => dropTokens
  have sessions : Piles []
      (mapFailure (failing "failed to create inference session")
        (Session.create host runtime (request binding ids mask types output) binding.options))
      Session.held (Session.Made runtime (request binding ids mask types output)) :=
    .ofMapFailure (Session.create_piles _ _ _ _)
  refine .bindSafe (sessions.orCleanUp dropAll) (fun _ _ => .inr fun engine => ⟨_, _, rfl⟩)
    fun session made => ?_
  exact .afterStep (.ofNote _ _) fun _ =>
    .ofPure rfl (standing_of_made idsMade maskMade typesMade outputMade made)

theorem Standing.destroy_clears (standing : bundle.Standing runtime)
    (root : runtime.environment.kind = .environment) : Clears bundle.held bundle.destroy := by
  obtain ⟨handle, live, kind⟩ := standing.session
  have session : Clears bundle.session.held bundle.session.destroy := by
    have stays : handle.kind.lasting = true := by rw [kind]; rfl
    unfold Session.destroy
    rw [Session.held, live]
    exact .bindLast (.release stays) fun _ => .bindLast (.ofNote _ _) fun _ => .ofPure _
  unfold destroy
  refine .bind session fun session => ?_
  refine .bind (standing.output.destroy_clears root) fun output => ?_
  have tail (types : Option (Tensor .int64)) : Clears (bundle.mask.held ++ bundle.ids.held) (do
      let mask ← bundle.mask.destroy
      let ids ← bundle.ids.destroy
      return { bundle with session, output, types, mask, ids }) :=
    .bind (standing.mask.destroy_clears root) fun mask =>
      .bindLast (standing.ids.destroy_clears root) fun ids => .ofPure _
  cases typed : bundle.types with
  | none => exact tail none
  | some tensor =>
      have gone := (standing.types tensor typed).destroy_clears root
      exact .bind (.bindLast gone fun _ => .ofPure _) fun types => tail types

/-- A run makes nothing that lasts. -/
theorem run_piles (bundle : BatchSession) (engine : Engine) :
    ∃ newer, Piled [] [] engine (bundle.run engine).2 newer ∨
      Cleared [] engine (bundle.run engine).2 newer := by
  obtain ⟨newer, reached⟩ :=
    bundle.session.run_piles bundle.operands [bundle.output.value] engine
  have ran : Attains (· = engine) (bundle.session.run bundle.operands [bundle.output.value])
      (fun _ after => Piled [] [] engine after newer ∨ Cleared [] engine after newer)
      (fun _ after => Piled [] [] engine after newer ∨ Cleared [] engine after newer) := by
    rintro _ rfl
    cases ended : bundle.session.run bundle.operands [bundle.output.value] _ with
    | ok effect after =>
        rw [ended] at reached
        exact .inl reached.1
    | error cause after =>
        rw [ended] at reached
        exact .inr reached
  exact ⟨newer, run_leaves ran engine rfl⟩

theorem destroyTensor_fst {element : ElementType} (tensor : Tensor element) (engine : Engine) :
    (tensor.destroy engine).1 = .destroyed := by
  unfold Tensor.destroy
  cases tensor.value <;> cases tensor.runtime <;> rfl

theorem destroy_fst (bundle : BatchSession) (engine : Engine) :
    (bundle.destroy engine).1 =
      { bundle with
        session := (bundle.session.destroy engine).1
        output := .destroyed
        types := bundle.types.map fun _ => .destroyed
        mask := .destroyed
        ids := .destroyed } := by
  unfold destroy
  cases bundle.types with
  | none =>
      simp only [bind_apply, destroyTensor_fst]
      rfl
  | some tensor =>
      have gone (engine : Engine) : ((some <$> tensor.destroy : Step _) engine).1 =
          some .destroyed := congrArg some (destroyTensor_fst tensor engine)
      simp only [bind_apply, destroyTensor_fst, gone]
      rfl

theorem destroy_session (bundle : BatchSession) (engine : Engine) :
    (bundle.destroy engine).1.session.handle = none ∧
      (bundle.destroy engine).1.session.runtime = bundle.session.runtime := by
  rw [destroy_fst]
  unfold Session.destroy
  cases live : bundle.session.handle with
  | none => exact ⟨live, rfl⟩
  | some handle => exact ⟨rfl, rfl⟩

/-- Destroying what was destroyed does nothing at all. -/
theorem destroy_again (bundle : BatchSession) (engine later : Engine) :
    ((bundle.destroy engine).1.destroy later).2 = later := by
  have gone := (bundle.destroy_session engine).1
  rw [destroy_fst] at gone ⊢
  rw [destroy, Session.destroy]
  dsimp only at gone ⊢
  rw [gone]
  cases bundle.types <;> rfl

theorem Standing.dispose_clears (standing : bundle.Standing runtime)
    (root : runtime.environment.kind = .environment) : Clears bundle.held bundle.dispose := by
  have discarded (engine : Engine) : Clears [] ((bundle.destroy engine).1.session.discard) := by
    obtain ⟨gone, same⟩ := bundle.destroy_session engine
    rw [Session.discard, Session.destroy, gone, same, standing.runtime]
    exact .letGo root
  have both : Clears (bundle.held ++ []) bundle.dispose :=
    (standing.destroy_clears root).bindFrom discarded
  rwa [List.append_nil] at both

section Stages

variable (host : Host) (runtime : Runtime) (binding : ModelBinding)

/-- A part of a batch session that is created upon the values before it. -/
structure Stage where
  context : String
  make : List (Option Handle) → Action RuntimeError (Option Handle)

def tokenStage (shape : Shape) (name : String) : Stage where
  context := s!"failed to create {name} tensor"
  make _ := (·.value) <$> Tensor.zeros .int64 runtime shape

def outputStage (outputShape : List Int) : Stage where
  context := "failed to create output tensor"
  make _ := (·.value) <$> Tensor.zeros .float runtime ⟨outputShape⟩

/-- The session is bound to all values before it, the last of which is its output. -/
def sessionStage : Stage where
  context := "failed to create inference session"
  make values := (·.handle) <$> Session.create host runtime
    { modelPath := binding.modelPath
      inputNames := binding.inputNames
      outputNames := [binding.outputName]
      inputs := values.dropLast
      outputs := values.getLast?.toList } binding.options

/-- The parts of a batch session in the order of their creation. -/
def stages (shape : Shape) (outputShape : List Int) : List Stage :=
  [tokenStage runtime shape "input_ids", tokenStage runtime shape "attention_mask"] ++
    ((if binding.usesTokenTypes then [tokenStage runtime shape "token_type_ids"] else []) ++
      [outputStage runtime outputShape, sessionStage host runtime binding])

/-- The first stage that fails, and its error under its own context. -/
inductive Falters : List Stage → List (Option Handle) → Engine → EmbeddingError → Prop
  | now {stage rest values engine cause after} :
      stage.make values engine = .error cause after →
      Falters (stage :: rest) values engine (failing stage.context cause)
  | later {stage rest values engine value middle error} :
      stage.make values engine = .ok value middle →
      Falters rest (values ++ [value]) middle error →
      Falters (stage :: rest) values engine error

variable {host runtime binding}

/-- An operation that fails only where one of these stages does. -/
def Blames (stages : List Stage) (values : List (Option Handle))
    (action : Action EmbeddingError α) : Prop :=
  ∀ engine error after, action engine = .error error after → Falters stages values engine error

/-- An operation that is another one with a failure put into context; what else a failure leads to
does not matter. -/
def Tries (context : String) (action : Action RuntimeError β) (tried : Action EmbeddingError β) :
    Prop :=
  ∀ engine, match action engine with
    | .ok value after => tried engine = .ok value after
    | .error cause _ => ∃ after, tried engine = .error (failing context cause) after

theorem Tries.ofMapFailure (context : String) (action : Action RuntimeError β) :
    Tries context action (mapFailure (failing context) action) := by
  intro engine
  unfold mapFailure
  cases action engine with
  | ok value after => rfl
  | error cause after => exact ⟨after, rfl⟩

theorem Tries.orCleanUp {context : String} {action : Action RuntimeError β}
    {tried : Action EmbeddingError β} (tries : Tries context action tried) (cleanup : Step Unit) :
    Tries context action (TextVectors.orCleanUp cleanup tried) := by
  intro engine
  have same := tries engine
  rw [Course.orCleanUp_apply]
  cases ended : action engine with
  | ok value after =>
      rw [ended] at same
      rw [same]
  | error cause after =>
      rw [ended] at same
      obtain ⟨last, failed⟩ := same
      rw [failed]
      exact ⟨_, rfl⟩

theorem Blames.bind {stage : Stage} {rest : List Stage} {values : List (Option Handle)}
    {action : Action RuntimeError β} {value : β → Option Handle} {tried : Action EmbeddingError β}
    {next : β → Action EmbeddingError α} (makes : stage.make values = value <$> action)
    (tries : Tries stage.context action tried)
    (further : ∀ made, Blames rest (values ++ [value made]) (next made)) :
    Blames (stage :: rest) values (tried >>= next) := by
  intro engine error after failed
  have same := tries engine
  change EStateM.bind tried next engine = _ at failed
  unfold EStateM.bind at failed
  cases ended : action engine with
  | ok made middle =>
      rw [ended] at same
      rw [same] at failed
      refine .later ?_ (further made middle error after failed)
      rw [makes]
      change EStateM.map value action engine = _
      unfold EStateM.map
      rw [ended]
  | error cause middle =>
      rw [ended] at same
      obtain ⟨last, refused⟩ := same
      rw [refused] at failed
      cases failed
      have stops : stage.make values engine = .error cause middle := by
        rw [makes]
        change EStateM.map value action engine = _
        unfold EStateM.map
        rw [ended]
      exact .now stops

/-- Creating a batch session fails in one of its stages, once its sizes are in range. -/
theorem create_blames (rows columns : Int) (outputShape : List Int) {batch : Nat}
    (inRange : dimension batch = .ok rows)
    (inRangeToo : dimension binding.sequenceLength = .ok columns) :
    Blames (stages host runtime binding ⟨[rows, columns]⟩ outputShape) []
      (create host runtime binding batch outputShape) := by
  have token (shape : Shape) (name : String) :
      Tries (tokenStage runtime shape name).context (Tensor.zeros .int64 runtime shape)
        (tokenTensor runtime shape name) :=
    .ofMapFailure _ _
  unfold create
  rw [inRange, inRangeToo]
  change Blames _ [] (tokenTensor runtime ⟨[rows, columns]⟩ "input_ids" >>= _)
  refine .bind rfl (token _ _) fun ids => ?_
  refine .bind rfl ((token _ _).orCleanUp _) fun mask => ?_
  dsimp only
  rw [ite_bind]
  by_cases typed : binding.usesTokenTypes = true
  · rw [if_pos typed, if_pos typed, bind_map_left]
    refine .bind rfl ((token _ _).orCleanUp _) fun types => ?_
    refine .bind rfl ((Tries.ofMapFailure _ _).orCleanUp _) fun output => ?_
    exact .bind rfl ((Tries.ofMapFailure _ _).orCleanUp _) fun session => nofun
  · rw [if_neg typed, if_neg typed, pure_bind]
    refine .bind rfl ((Tries.ofMapFailure _ _).orCleanUp _) fun output => ?_
    exact .bind rfl ((Tries.ofMapFailure _ _).orCleanUp _) fun session => nofun

/-- Why there is no batch session: one of its sizes is out of range, or a stage fails. -/
inductive Refused (host : Host) (runtime : Runtime) (binding : ModelBinding) (batch : Nat)
    (outputShape : List Int) (engine : Engine) : EmbeddingError → Prop
  | rows {fault} : dimension batch = .error fault →
      Refused host runtime binding batch outputShape engine (.invalidInput fault)
  | columns {rows fault} : dimension batch = .ok rows →
      dimension binding.sequenceLength = .error fault →
      Refused host runtime binding batch outputShape engine (.invalidInput fault)
  | stage {rows columns error} : dimension batch = .ok rows →
      dimension binding.sequenceLength = .ok columns →
      Falters (stages host runtime binding ⟨[rows, columns]⟩ outputShape) [] engine error →
      Refused host runtime binding batch outputShape engine error

theorem create_refused {batch : Nat} {outputShape : List Int} {engine after : Engine}
    {error : EmbeddingError}
    (failed : create host runtime binding batch outputShape engine = .error error after) :
    Refused host runtime binding batch outputShape engine error := by
  cases inRange : dimension batch with
  | error fault =>
      rw [create, inRange] at failed
      cases failed
      exact .rows inRange
  | ok rows =>
      cases inRangeToo : dimension binding.sequenceLength with
      | error fault =>
          rw [create, inRange, inRangeToo] at failed
          cases failed
          exact .columns inRange inRangeToo
      | ok columns =>
          have blames : Blames _ [] (create host runtime binding batch outputShape) :=
            create_blames rows columns outputShape inRange inRangeToo
          exact .stage inRange inRangeToo (blames engine error after failed)

end Stages

end BatchSession

/-- The values and sessions that came into being from one moment to another, in their order. -/
def madeBetween (before after : Engine) : List Handle :=
  lasting (History.created (after.eventsSince before))

/-- The values and sessions that were released from one moment to another, in their order. -/
def freedBetween (before after : Engine) : List Handle :=
  lasting (History.released (after.eventsSince before))

theorem between_of_history {before after : Engine} {newer : History}
    (history : after.history = newer ++ before.history) :
    madeBetween before after = (lasting newer.created).reverse ∧
      freedBetween before after = (lasting newer.released).reverse := by
  rw [madeBetween, freedBetween, Engine.eventsSince_append history]
  simp [created, released, lasting, List.filterMap_reverse, List.filter_reverse]

theorem Clears.between {freed : List Handle} {step : Step α} (clears : Clears freed step)
    (engine : Engine) :
    madeBetween engine (step engine).2 = [] ∧ freedBetween engine (step engine).2 = freed := by
  obtain ⟨newer, history, plain, gone⟩ := clears engine
  rw [(between_of_history history).1, (between_of_history history).2, plain, gone]
  exact ⟨rfl, rfl⟩

namespace BatchSession

theorem value_of_lasting {kind : ObjectKind} (lasts : kind.lasting = true)
    (other : kind ≠ .session) : kind = .value := by
  cases kind with
  | value => rfl
  | session => exact absurd rfl other
  | _ => cases lasts

/-- What a failure leaves: only values were made, and each was released once, the last one first. -/
structure Undone (before after : Engine) : Prop where
  values : ∀ handle ∈ madeBetween before after, handle.kind = .value
  once : (madeBetween before after).Nodup
  backwards : freedBetween before after = (madeBetween before after).reverse

/-- A batch session as it was put together, and how it is taken apart at any time: the session
first, and then the values that it is bound to, the last one first.  After that nothing is left to
do. -/
structure Stacked (before after : Engine) (bundle : BatchSession) : Prop where
  session : ∃ session, bundle.session.handle = some session ∧ session.kind = .session ∧
    bundle.held = session :: bundle.bound.reverse
  made : madeBetween before after = bundle.held.reverse
  once : bundle.held.Nodup
  kept : freedBetween before after = []
  destroyed : ∀ later, madeBetween later (bundle.destroy later).2 = [] ∧
    freedBetween later (bundle.destroy later).2 = bundle.held
  disposed : ∀ later, madeBetween later (bundle.dispose later).2 = [] ∧
    freedBetween later (bundle.dispose later).2 = bundle.held
  again : ∀ engine later, ((bundle.destroy engine).1.destroy later).2 = later

theorem create_ends (host : Host) {runtime : Runtime}
    (root : runtime.environment.kind = .environment) (binding : ModelBinding) (batch : Nat)
    (outputShape : List Int) (engine : Engine) :
    EndsIn (fun bundle after => Stacked engine after bundle)
      (fun error after => Refused host runtime binding batch outputShape engine error ∧
        Undone engine after)
      (create host runtime binding batch outputShape engine) := by
  obtain ⟨newer, reached⟩ := create_piles host root binding batch outputShape engine
  cases ended : create host runtime binding batch outputShape engine with
  | ok bundle after =>
      rw [ended] at reached
      obtain ⟨piled, standing⟩ := reached
      have made := piled.made
      rw [List.append_nil] at made
      obtain ⟨allMade, allFreed⟩ := between_of_history piled.history
      constructor
      case session => exact standing.on_top
      case made => rw [allMade, made]
      case once =>
        rw [made]
        exact piled.numbered.nodup.filter _
      case kept => rw [allFreed, piled.gone, List.reverse_nil]
      case destroyed => exact (standing.destroy_clears root).between
      case disposed => exact (standing.dispose_clears root).between
      case again => exact bundle.destroy_again
  | error error after =>
      rw [ended] at reached
      have gone := reached.gone
      rw [List.append_nil] at gone
      obtain ⟨allMade, allFreed⟩ := between_of_history reached.history
      refine ⟨create_refused ended, ?_⟩
      constructor
      case values =>
        intro handle member
        rw [allMade, List.mem_reverse] at member
        obtain ⟨among, lasts⟩ := mem_lasting.mp member
        have other := reached.sessions handle among
        exact value_of_lasting lasts other
      case once =>
        rw [allMade, List.nodup_reverse]
        exact reached.numbered.nodup.filter _
      case backwards => rw [allMade, allFreed, gone, List.reverse_reverse]

end BatchSession

end TextVectors

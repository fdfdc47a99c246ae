import TextVectors.Embedding.Run
import TextVectors.Proofs.Embedding.Buffers
import TextVectors.Proofs.Embedding.Creation

namespace TextVectors

/-! The plan of a batch session: its sizes, or the error with which creating it ends. -/

open Inference

variable {fails : Prop} {holds : Engine → Prop}

section Bindings

variable (model : String) (inputNames outputNames : List String)

theorem liveHandles_some (side : Side) (position : Nat) (handles : List Handle) :
    SessionRequest.liveHandles side position (handles.map some) = .ok handles := by
  induction handles generalizing position with
  | nil => rfl
  | cons handle rest ih =>
      rw [List.map_cons, SessionRequest.liveHandles, ih]
      rfl

/-- What is bound to live values does not depend on which values they are. -/
theorem bindings_of_live (inputs outputs others othersToo : List Handle)
    (same : inputs.length = others.length) (sameToo : outputs.length = othersToo.length)
    (present : Bool) :
    SessionRequest.bindings ⟨model, inputNames, outputNames, inputs.map some, outputs.map some⟩
        present =
      (SessionRequest.bindings ⟨model, inputNames, outputNames, others.map some,
        othersToo.map some⟩ present).map fun _ =>
          (List.zipWith Binding.mk inputNames inputs,
            List.zipWith Binding.mk outputNames outputs) := by
  simp only [SessionRequest.bindings, List.length_map, same, sameToo, liveHandles_some]
  by_cases unnamed : model = ""
  · rw [if_pos unnamed, if_pos unnamed]
    rfl
  rw [if_neg unnamed, if_neg unnamed]
  by_cases missing : (!present) = true
  · rw [if_pos missing, if_pos missing]
    rfl
  rw [if_neg missing, if_neg missing]
  by_cases oneSided : (inputNames.isEmpty || outputNames.isEmpty) = true
  · rw [if_pos oneSided, if_pos oneSided]
    rfl
  rw [if_neg oneSided, if_neg oneSided]
  by_cases fewInputs : inputNames.length ≠ others.length
  · rw [if_pos fewInputs, if_pos fewInputs]
    rfl
  rw [if_neg fewInputs, if_neg fewInputs]
  by_cases fewOutputs : outputNames.length ≠ othersToo.length
  · rw [if_pos fewOutputs, if_pos fewOutputs]
    rfl
  rw [if_neg fewOutputs, if_neg fewOutputs]
  cases first : SessionRequest.checkNames inputNames with
  | error fault => rfl
  | ok _ =>
      cases second : SessionRequest.checkNames outputNames with
      | error fault => rfl
      | ok _ => rfl

theorem present_of_bindings {request : SessionRequest} {present : Bool}
    {bound : List Binding × List Binding} (accepted : request.bindings present = .ok bound) :
    present = true ∧ request.inputNames.length = request.inputs.length := by
  unfold SessionRequest.bindings at accepted
  by_cases unnamed : request.modelPath = ""
  · rw [if_pos unnamed] at accepted
    cases accepted
  rw [if_neg unnamed] at accepted
  by_cases missing : (!present) = true
  · rw [if_pos missing] at accepted
    cases accepted
  rw [if_neg missing] at accepted
  by_cases oneSided : (request.inputNames.isEmpty || request.outputNames.isEmpty) = true
  · rw [if_pos oneSided] at accepted
    cases accepted
  rw [if_neg oneSided] at accepted
  by_cases fewInputs : request.inputNames.length ≠ request.inputs.length
  · rw [if_pos fewInputs] at accepted
    cases accepted
  exact ⟨by simpa using missing, Decidable.not_not.mp fewInputs⟩

end Bindings

namespace BatchSession

/-- How many token tensors a model reads. -/
def tokenParts (binding : ModelBinding) : Nat :=
  if binding.usesTokenTypes then 3 else 2

/-- A request that binds some live values. -/
def sampleRequest (binding : ModelBinding) : SessionRequest where
  modelPath := binding.modelPath
  inputNames := binding.inputNames
  outputNames := [binding.outputName]
  inputs := (List.replicate (tokenParts binding) default).map some
  outputs := [default].map some

/-- The error of a tensor of a shape, if it has no number of elements. -/
def countFor (text : String) (shape : Shape) : Except EmbeddingError Nat :=
  shape.elementCount.mapError fun fault => failing text (.invalidShape fault)

def tokenText (name : String) : String :=
  s!"failed to create {name} tensor"

/-- The sizes of a token tensor and of the output. -/
def plan (binding : ModelBinding) (present : Bool) (batch : Nat) (outputShape : List Int) :
    Except EmbeddingError (Nat × Nat) := do
  let rows ← (dimension batch).mapError .invalidInput
  let columns ← (dimension binding.sequenceLength).mapError .invalidInput
  let tokens ← countFor (tokenText "input_ids") ⟨[rows, columns]⟩
  let cells ← countFor "failed to create output tensor" ⟨outputShape⟩
  let _ ← ((sampleRequest binding).bindings present).mapError
    (failing "failed to create inference session")
  return (tokens, cells)

def inputValues (bundle : BatchSession) : List (Option Handle) :=
  bundle.ids.value :: bundle.mask.value :: (bundle.types.map (·.value)).toList

/-- A batch session in its form: all token tensors of the same size, and the session bound to
what it is run on. -/
structure Formed (binding : ModelBinding) (batch : Nat) (bundle : BatchSession) : Prop where
  batch : bundle.batch = batch
  sequenceLength : bundle.sequenceLength = binding.sequenceLength
  sized : bundle.buffers.Sized bundle.ids.cells.length
  typed : bundle.types.isSome = binding.usesTokenTypes
  inputs : ∃ handles, bundle.inputValues = handles.map some ∧
    binding.inputNames.length = handles.length ∧
    bundle.session.inputs = List.zipWith Binding.mk binding.inputNames handles
  output : ∃ handle, bundle.output.value = some handle ∧
    bundle.session.outputs = [⟨binding.outputName, handle⟩]

variable {binding : ModelBinding} {present : Bool} {batch : Nat} {outputShape : List Int}

theorem countFor_ok {text : String} {shape : Shape} {count : Nat}
    (counted : shape.elementCount = .ok count) : countFor text shape = .ok count := by
  rw [countFor, counted]
  rfl

/-- Only the error depends on what the count is for. -/
theorem countFor_text {text : String} {shape : Shape} {count : Nat}
    (counted : countFor text shape = .ok count) (other : String) :
    countFor other shape = .ok count := by
  unfold countFor at counted ⊢
  cases found : shape.elementCount with
  | error fault =>
      rw [found] at counted
      cases counted
  | ok number =>
      rw [found] at counted
      exact counted

theorem inputValues_some {ids mask : Tensor .int64} {types : Option (Tensor .int64)}
    (ids_live : ids.value.isSome) (mask_live : mask.value.isSome)
    (types_live : ∀ tensor ∈ types, tensor.value.isSome)
    (typed : types.isSome = binding.usesTokenTypes) :
    ∃ handles : List Handle, handles.length = tokenParts binding ∧
      ids.value :: mask.value :: (types.map (·.value)).toList = handles.map some := by
  obtain ⟨first, one⟩ := Option.isSome_iff_exists.mp ids_live
  obtain ⟨second, two⟩ := Option.isSome_iff_exists.mp mask_live
  cases types with
  | none =>
      refine ⟨[first, second], ?_, ?_⟩
      · rw [tokenParts, ← typed]
        rfl
      · rw [one, two]
        rfl
  | some tensor =>
      obtain ⟨third, three⟩ := Option.isSome_iff_exists.mp (types_live tensor rfl)
      refine ⟨[first, second, third], ?_, ?_⟩
      · rw [tokenParts, ← typed]
        rfl
      · rw [one, two, Option.map_some, three]
        rfl

/-- Once the sizes are dimensions, the plan goes by shapes and names. -/
theorem plan_eq {rows columns : Int} (foundRows : dimension batch = .ok rows)
    (foundColumns : dimension binding.sequenceLength = .ok columns) :
    plan binding present batch outputShape = (do
      let tokens ← countFor (tokenText "input_ids") ⟨[rows, columns]⟩
      let cells ← countFor "failed to create output tensor" ⟨outputShape⟩
      let _ ← ((sampleRequest binding).bindings present).mapError
        (failing "failed to create inference session")
      return (tokens, cells)) := by
  rw [plan, foundRows, foundColumns]
  rfl

section Parts

variable {ids mask : Tensor .int64} {types : Option (Tensor .int64)} {output : Tensor .float}
variable {count : Nat}

/-- Token tensors of one size, and all tensors live. -/
structure Assembled (binding : ModelBinding) (count : Nat) (ids mask : Tensor .int64)
    (types : Option (Tensor .int64)) (output : Tensor .float) : Prop where
  ids : ids.cells.length = count ∧ ids.value.isSome
  mask : mask.cells.length = count ∧ mask.value.isSome
  typed : types.isSome = binding.usesTokenTypes
  types : ∀ tensor ∈ types, tensor.cells.length = count ∧ tensor.value.isSome
  output : output.value.isSome

/-- The request for assembled parts is answered like the one for any other live values. -/
theorem Assembled.bindings (assembled : Assembled binding count ids mask types output)
    (present : Bool) :
    ∃ handles result, ids.value :: mask.value :: (types.map (·.value)).toList = handles.map some ∧
      output.value = some result ∧
      (request binding ids mask types output).bindings present =
        ((sampleRequest binding).bindings present).map fun _ =>
          (List.zipWith Binding.mk binding.inputNames handles, [⟨binding.outputName, result⟩]) := by
  obtain ⟨handles, parts, values⟩ := inputValues_some assembled.ids.2 assembled.mask.2
    (fun tensor member => (assembled.types tensor member).2) assembled.typed
  obtain ⟨result, live⟩ := Option.isSome_iff_exists.mp assembled.output
  refine ⟨handles, result, values, live, ?_⟩
  have same : handles.length = (List.replicate (tokenParts binding) (default : Handle)).length := by
    rw [parts, List.length_replicate]
  rw [request, values, live]
  exact bindings_of_live binding.modelPath binding.inputNames [binding.outputName] handles [result]
    (List.replicate (tokenParts binding) default) [default] same rfl present

/-- Assembled parts with a session that is bound to them. -/
theorem Assembled.formed (assembled : Assembled binding count ids mask types output)
    {session : Session}
    (bound : (request binding ids mask types output).bindings present =
      .ok (session.inputs, session.outputs)) :
    Formed binding batch ⟨batch, binding.sequenceLength, ids, mask, types, output, session⟩ ∧
      ∃ sample, (sampleRequest binding).bindings present = .ok sample := by
  obtain ⟨handles, result, values, live, bindings⟩ := assembled.bindings present
  have named := (present_of_bindings bound).2
  rw [bindings] at bound
  cases sampled : (sampleRequest binding).bindings present with
  | error fault =>
      rw [sampled] at bound
      cases bound
  | ok sample =>
      rw [sampled] at bound
      obtain ⟨inputsBound, outputsBound⟩ := Prod.mk.inj (Except.ok.inj bound)
      refine ⟨⟨rfl, rfl, ⟨rfl, ?_, ?_⟩, assembled.typed, ?_, result, live, outputsBound.symm⟩,
        sample, rfl⟩
      · exact assembled.mask.1.trans assembled.ids.1.symm
      · intro cells member
        obtain ⟨tensor, given, rfl⟩ := Option.map_eq_some_iff.mp member
        exact (assembled.types tensor given).1.trans assembled.ids.1.symm
      · refine ⟨handles, values, named.trans ?_, inputsBound.symm⟩
        rw [request, values, List.length_map]

end Parts

variable (steady : Steady fails holds)
include steady

/-- Where the plan counts a shape, a tensor of that shape can only be refused with its error. -/
theorem counted_obtains (element : ElementType) (runtime : Runtime) (shape : Shape)
    (text : String) :
    Obtains fails holds (mapFailure (failing text) (Tensor.zeros element runtime shape))
      (fun tensor => countFor text shape = .ok tensor.cells.length ∧ tensor.value.isSome)
      (fun error => countFor text shape = .error error) := by
  refine .ofMapFailure ((zeros_obtains steady element runtime shape).weaken ?_ ?_)
  · intro tensor reached
    obtain ⟨counted, live⟩ := reached
    exact ⟨countFor_ok counted, live⟩
  · intro error reached
    obtain ⟨fault, failed, rfl⟩ := reached
    rw [countFor, failed]
    rfl

section Creating

variable (host : Host) (runtime : Runtime) {shape : Shape} {count : Nat}
variable {refused : EmbeddingError → Prop}

/-- Once one token tensor of a shape has been created, no other is refused. -/
theorem tokenTensor_obtains (counted : countFor (tokenText "input_ids") shape = .ok count)
    (name : String) :
    Obtains fails holds (tokenTensor runtime shape name)
      (fun tensor => tensor.cells.length = count ∧ tensor.value.isSome) refused := by
  have again := countFor_text counted (tokenText name)
  refine (counted_obtains steady .int64 runtime shape (tokenText name)).weaken ?_ ?_
  · intro tensor reached
    obtain ⟨found, live⟩ := reached
    rw [again] at found
    exact ⟨(Except.ok.inj found).symm, live⟩
  · intro error failed
    rw [again] at failed
    cases failed

theorem types_obtains (counted : countFor (tokenText "input_ids") shape = .ok count)
    (binding : ModelBinding) {cleanup : Step Unit} (cleans : Ensures holds cleanup fun _ => holds) :
    Obtains fails holds
      (if binding.usesTokenTypes then
        some <$> TextVectors.orCleanUp cleanup (tokenTensor runtime shape "token_type_ids")
      else pure none)
      (fun types => types.isSome = binding.usesTokenTypes ∧
        ∀ tensor ∈ types, tensor.cells.length = count ∧ tensor.value.isSome) refused := by
  split
  · rename_i used
    refine ((tokenTensor_obtains steady runtime counted "token_type_ids").orCleanUp cleans).map ?_
    intro tensor reached
    refine ⟨used.symm, ?_⟩
    intro other absurd
    cases absurd
    exact reached
  · rename_i unused
    exact .ofPure ⟨(Bool.not_eq_true _ ▸ unused).symm, by simp⟩

/-- Creating a session for assembled parts fails where it would for any other live values. -/
theorem createSession_attains {binding : ModelBinding} {ids mask : Tensor .int64}
    {types : Option (Tensor .int64)} {output : Tensor .float}
    (assembled : Assembled binding count ids mask types output) :
    Attains holds (mapFailure (failing "failed to create inference session")
      (Session.create host runtime (request binding ids mask types output) binding.options))
      (fun session engine => holds engine ∧
        (request binding ids mask types output).bindings (host.files.present binding.modelPath) =
          .ok (session.inputs, session.outputs) ∧
        ∃ handle, session.handle = some handle ∧
          engine.history.MadeFor binding.modelPath handle)
      (fun error engine => holds engine ∧ (fails ∨ ∃ fault,
        (sampleRequest binding).bindings (host.files.present binding.modelPath) = .error fault ∧
          error = failing "failed to create inference session" fault)) := by
  refine .ofMapFailure (Attains.weaken (session_attains steady host runtime _ binding.options)
    (fun _ _ reached => reached) ?_)
  intro error engine reached
  obtain ⟨held, why⟩ := reached
  refine ⟨held, why.imp_right fun refused => ?_⟩
  obtain ⟨handles, result, -, -, bindings⟩ :=
    assembled.bindings (host.files.present binding.modelPath)
  change (request binding ids mask types output).bindings
    (host.files.present binding.modelPath) = .error error at refused
  rw [bindings] at refused
  cases sampled : (sampleRequest binding).bindings (host.files.present binding.modelPath) with
  | ok bound =>
      rw [sampled] at refused
      cases refused
  | error fault =>
      rw [sampled] at refused
      cases refused
      exact ⟨error, rfl, rfl⟩

/-- Creating a batch session goes as planned, unless a call to the library fails. -/
theorem create_attains (binding : ModelBinding) (batch : Nat) (outputShape : List Int) :
    Attains holds (create host runtime binding batch outputShape)
      (fun bundle engine => holds engine ∧ Formed binding batch bundle ∧
        plan binding (host.files.present binding.modelPath) batch outputShape =
          .ok (bundle.ids.cells.length, bundle.output.cells.length) ∧
        ∃ handle, bundle.session.handle = some handle ∧
          engine.history.MadeFor binding.modelPath handle)
      (fun error engine => holds engine ∧ (fails ∨
        plan binding (host.files.present binding.modelPath) batch outputShape = .error error)) := by
  let planned := plan binding (host.files.present binding.modelPath) batch outputShape
  have rowed : Obtains fails holds (mapFailure EmbeddingError.invalidInput
      (ofExcept (dimension batch))) (fun rows => dimension batch = .ok rows)
      (fun error => planned = .error error) := by
    refine .ofMapFailure ((Obtains.ofExcept _).weaken (fun _ found => found) fun fault failed => ?_)
    simp only [planned, plan, failed]
    rfl
  unfold create
  refine rowed.bindAttains fun rows foundRows => ?_
  have aligned : Obtains fails holds (mapFailure EmbeddingError.invalidInput
      (ofExcept (dimension binding.sequenceLength)))
      (fun columns => dimension binding.sequenceLength = .ok columns)
      (fun error => planned = .error error) := by
    refine .ofMapFailure ((Obtains.ofExcept _).weaken (fun _ found => found) fun fault failed => ?_)
    simp only [planned, plan, foundRows, failed]
    rfl
  refine aligned.bindAttains fun columns foundColumns => ?_
  have shaped : planned = _ := plan_eq foundRows foundColumns
  have first : Obtains fails holds (tokenTensor runtime ⟨[rows, columns]⟩ "input_ids")
      (fun tensor => countFor (tokenText "input_ids") ⟨[rows, columns]⟩ = .ok tensor.cells.length ∧
        tensor.value.isSome) (fun error => planned = .error error) := by
    refine (counted_obtains steady .int64 runtime _ (tokenText "input_ids")).weaken
      (fun _ reached => reached) ?_
    intro error failed
    rw [shaped, failed]
    rfl
  refine first.bindAttains fun ids foundIds => ?_
  obtain ⟨foundTokens, liveIds⟩ := foundIds
  have dropIds := destroyTensor_steady steady ids
  refine ((tokenTensor_obtains steady runtime foundTokens "attention_mask").orCleanUp
    dropIds).bindAttains fun mask foundMask => ?_
  have dropInputs : Ensures holds (do destroyTensor mask; destroyTensor ids) fun _ => holds :=
    (destroyTensor_steady steady mask).bind fun _ => dropIds
  dsimp only
  rw [ite_bind]
  refine (types_obtains steady runtime foundTokens binding dropInputs).bindAttains
    fun types foundTypes => ?_
  have dropTokens : Ensures holds (do
      destroyTypes types
      destroyTensor mask
      destroyTensor ids) fun _ => holds :=
    (destroyTypes_steady steady types).bind fun _ => dropInputs
  have last : Obtains fails holds (mapFailure (failing "failed to create output tensor")
      (Tensor.zeros .float runtime ⟨outputShape⟩))
      (fun tensor => countFor "failed to create output tensor" ⟨outputShape⟩ =
        .ok tensor.cells.length ∧ tensor.value.isSome) (fun error => planned = .error error) := by
    refine (counted_obtains steady .float runtime _ _).weaken (fun _ reached => reached) ?_
    intro error failed
    rw [shaped, foundTokens, failed]
    rfl
  refine (last.orCleanUp dropTokens).bindAttains fun output foundOutput => ?_
  obtain ⟨foundCells, liveOutput⟩ := foundOutput
  have dropAll : Ensures holds (do
      destroyTensor output
      destroyTypes types
      destroyTensor mask
      destroyTensor ids) fun _ => holds :=
    (destroyTensor_steady steady output).bind fun _ => dropTokens
  have assembled : Assembled binding ids.cells.length ids mask types output :=
    ⟨⟨rfl, liveIds⟩, foundMask, foundTypes.1, foundTypes.2, liveOutput⟩
  have created := Attains.weaken (createSession_attains steady host runtime assembled)
    (fun _ _ reached => reached) fun error engine reached => show
      holds engine ∧ (fails ∨ planned = .error error) by
        refine ⟨reached.1, reached.2.imp_right fun refused => ?_⟩
        obtain ⟨fault, sampled, rfl⟩ := refused
        rw [shaped, foundTokens, foundCells, sampled]
        rfl
  refine Attains.bind (created.orCleanUp fun error engine reached =>
    ⟨dropAll engine reached.1, reached.2⟩) fun session => ?_
  intro engine reached
  obtain ⟨held, bound, handle, open_, made⟩ := reached
  have noted := note_steady (steady.madeFor binding.modelPath (· = handle)) .debug
    s!"Created batch-{batch} session for {binding.modelPath}" engine
    ⟨held, fun _ same => same ▸ made⟩
  obtain ⟨formed, sample, sampled⟩ := assembled.formed bound
  refine ⟨noted.1, formed, ?_, handle, open_, noted.2 handle rfl⟩
  change planned = _
  rw [shaped, foundTokens, foundCells, sampled]
  rfl

end Creating

end BatchSession

end TextVectors

import TextVectors.Inference.Session
import TextVectors.TokenBuffers

namespace TextVectors

/-! A session together with the tensors it is bound to, for one batch size.

The tensors of the inputs hold one row of tokens per document.  What was created
is released in the opposite order, both when creating a later part fails and when
the whole is destroyed.
-/

open Inference

/-- What is needed to create a session for any batch size. -/
structure ModelBinding where
  modelPath : String
  /-- Names for ids, mask and, where the model reads them, type ids. -/
  inputNames : List String
  outputName : String
  sequenceLength : Nat
  options : SessionOptions
deriving Repr

namespace ModelBinding

def usesTokenTypes (binding : ModelBinding) : Bool :=
  binding.inputNames.length > 2

end ModelBinding

/-- A size as a dimension, if it is in range. -/
def dimension (size : Nat) : Except InputFault Int :=
  if size < signedLimit then .ok size else .error (.dimensionOverflow size)

/-- Runs a cleanup when an operation fails, and fails with its error then. -/
def orCleanUp (cleanup : Step Unit) (action : Action ε α) : Action ε α := do
  match ← attempt (ε := ε) action with
  | .ok value => return value
  | .error error =>
      cleanup
      throw error

structure BatchSession where
  batch : Nat
  sequenceLength : Nat
  ids : Tensor .int64
  mask : Tensor .int64
  types : Option (Tensor .int64)
  output : Tensor .float
  session : Session

namespace BatchSession

/-- An error of the native side, with what was being done. -/
def failing (text : String) (error : RuntimeError) : EmbeddingError :=
  .context text (.runtime error)

def tokenTensor (runtime : Runtime) (shape : Shape) (name : String) :
    Action EmbeddingError (Tensor .int64) :=
  mapFailure (failing s!"failed to create {name} tensor") (Tensor.zeros .int64 runtime shape)

def destroyTensor {element : ElementType} (tensor : Tensor element) : Step Unit := do
  let _ ← tensor.destroy

def destroyTypes (types : Option (Tensor .int64)) : Step Unit := do
  match types with
  | some tensor => destroyTensor tensor
  | none => pure ()

/-- What the session of a batch is asked to bind. -/
def request (binding : ModelBinding) (ids mask : Tensor .int64) (types : Option (Tensor .int64))
    (output : Tensor .float) : SessionRequest where
  modelPath := binding.modelPath
  inputNames := binding.inputNames
  outputNames := [binding.outputName]
  inputs := ids.value :: mask.value :: (types.map (·.value)).toList
  outputs := [output.value]

/-- Creates the token tensors, the output tensor and the session, in this
order. -/
def create (host : Host) (runtime : Runtime) (binding : ModelBinding) (batch : Nat)
    (outputShape : List Int) : Action EmbeddingError BatchSession := do
  let rows ← mapFailure .invalidInput (ofExcept (dimension batch))
  let columns ← mapFailure .invalidInput (ofExcept (dimension binding.sequenceLength))
  let shape : Shape := ⟨[rows, columns]⟩
  let ids ← tokenTensor runtime shape "input_ids"
  let mask ← orCleanUp (destroyTensor ids) (tokenTensor runtime shape "attention_mask")
  let dropInputs : Step Unit := do
    destroyTensor mask
    destroyTensor ids
  let types ←
    if binding.usesTokenTypes then
      some <$> orCleanUp dropInputs (tokenTensor runtime shape "token_type_ids")
    else pure none
  let dropTokens : Step Unit := do
    destroyTypes types
    dropInputs
  let output ← orCleanUp dropTokens
    (mapFailure (failing "failed to create output tensor")
      (Tensor.zeros .float runtime ⟨outputShape⟩))
  let dropAll : Step Unit := do
    destroyTensor output
    dropTokens
  let session ← orCleanUp dropAll
    (mapFailure (failing "failed to create inference session")
      (Session.create host runtime (request binding ids mask types output) binding.options))
  note .debug s!"Created batch-{batch} session for {binding.modelPath}"
  return { batch, sequenceLength := binding.sequenceLength, ids, mask, types, output, session }

def buffers (bundle : BatchSession) : TokenBuffers where
  ids := bundle.ids.cells
  mask := bundle.mask.cells
  types := bundle.types.map (·.cells)

def setBuffers (bundle : BatchSession) (buffers : TokenBuffers) : BatchSession :=
  { bundle with
    ids := { bundle.ids with cells := buffers.ids }
    mask := { bundle.mask with cells := buffers.mask }
    types := match bundle.types, buffers.types with
      | some tensor, some cells => some { tensor with cells }
      | types, _ => types }

/-- A batch has as many rows as it was created for. -/
def checkRows (bundle : BatchSession) (rows : Nat) : Except InputFault Unit :=
  if rows = bundle.batch then .ok () else .error (.rowCount bundle.batch rows)

def fillEncodings (bundle : BatchSession) (encodings : List Encoding) :
    Except EmbeddingError Unit × BatchSession :=
  match bundle.checkRows encodings.length with
  | .error fault => (.error (.invalidInput fault), bundle)
  | .ok () =>
      let (result, buffers) := bundle.buffers.fillEncodings bundle.sequenceLength encodings
      (result, bundle.setBuffers buffers)

def fillWindows (bundle : BatchSession) (windows : List Window) :
    Except EmbeddingError Unit × BatchSession :=
  match bundle.checkRows windows.length with
  | .error fault => (.error (.invalidInput fault), bundle)
  | .ok () =>
      let (result, buffers) := bundle.buffers.fillWindows bundle.sequenceLength windows
      (result.mapError .invalidInput, bundle.setBuffers buffers)

/-- What the session is handed for a run. -/
def operands (bundle : BatchSession) : List Operand :=
  bundle.ids.operand :: bundle.mask.operand :: (bundle.types.map Tensor.operand).toList

/-- Runs the session on the token buffers.  The output takes what the run leaves
in it, also where the run fails. -/
def run (bundle : BatchSession) : Step (Except RuntimeError Unit × BatchSession) := do
  let ran ← attempt (ε := FailedRun) (bundle.session.run bundle.operands [bundle.output.value])
  let output := bundle.output.receive (FailedRun.left ran) 0
  return ((ran.map fun _ => ()).mapError (·.error), { bundle with output })

/-- Releases the session and then the tensors, the last created first. -/
def destroy (bundle : BatchSession) : Step BatchSession := do
  let session ← bundle.session.destroy
  let output ← bundle.output.destroy
  let types ← match bundle.types with
    | some tensor => some <$> tensor.destroy
    | none => pure none
  let mask ← bundle.mask.destroy
  let ids ← bundle.ids.destroy
  return { bundle with session, output, types, mask, ids }

/-- Destroys the whole for good; the session gives up its runtime last. -/
def dispose (bundle : BatchSession) : Step Unit := do
  let destroyed ← bundle.destroy
  destroyed.session.discard

end BatchSession

end TextVectors

import TextVectors.Inference.SessionOptions
import TextVectors.Inference.Tensor

namespace TextVectors.Inference

/-! Sessions: a loaded model bound to the values it reads and writes.

A session does not own its tensors.  It runs only on exactly the values that it
was created with, and it refers to its runtime until it is discarded.
-/

structure Session where
  handle : Option Handle
  inputs : List Binding
  outputs : List Binding
  modelPath : String
  runtime : Runtime
deriving Repr

/-- A value as it is handed to a session: its handle while it is live, and the
contents of its buffer. -/
structure Operand where
  value : Option Handle
  contents : Contents

def Tensor.operand {element : ElementType} (tensor : Tensor element) : Operand :=
  ⟨tensor.value, tensor.contents⟩

/-- What a session is asked to bind: names and values of its two sides. -/
structure SessionRequest where
  modelPath : String
  inputNames : List String
  outputNames : List String
  inputs : List (Option Handle)
  outputs : List (Option Handle)
deriving Repr

namespace SessionRequest

/-- The handles of values that must all be live. -/
def liveHandles (side : Side) : Nat → List (Option Handle) → Except SessionFault (List Handle)
  | _, [] => .ok []
  | position, none :: _ => .error (.destroyedValue side position)
  | position, some handle :: rest => (liveHandles side (position + 1) rest).map (handle :: ·)

/-- Names must not be empty, and they are handed over terminated by NUL. -/
def checkNames : List String → Except SessionFault Unit
  | [] => .ok ()
  | name :: rest =>
      if name = "" then .error .emptyName
      else if name.toList.contains (Char.ofNat 0) then .error (.nameWithNul name)
      else checkNames rest

/-- The bindings of both sides, or the first reason against the request. -/
def bindings (request : SessionRequest) (modelPresent : Bool) :
    Except RuntimeError (List Binding × List Binding) := do
  if request.modelPath = "" then
    throw (.invalidInput .emptyModelPath)
  if !modelPresent then
    throw (.modelNotFound request.modelPath)
  if request.inputNames.isEmpty || request.outputNames.isEmpty then
    throw (.invalidInput .missingSide)
  if request.inputNames.length ≠ request.inputs.length then
    throw (.invalidInput (.countMismatch .input request.inputNames.length request.inputs.length))
  if request.outputNames.length ≠ request.outputs.length then
    throw (.invalidInput
      (.countMismatch .output request.outputNames.length request.outputs.length))
  let inputs ← (liveHandles .input 0 request.inputs).mapError .invalidInput
  let outputs ← (liveHandles .output 0 request.outputs).mapError .invalidInput
  (checkNames request.inputNames).mapError .invalidInput
  (checkNames request.outputNames).mapError .invalidInput
  return (List.zipWith Binding.mk request.inputNames inputs,
    List.zipWith Binding.mk request.outputNames outputs)

end SessionRequest

namespace Session

/-- Native options as asked; they are released again if setting one fails. -/
def setOptions (native : Handle) (options : SessionOptions) : Action RuntimeError Unit := do
  let _ ← Engine.request (.setOptimizationLevel native options.optimizationLevel.number)
  if options.intraOpThreads > 0 then
    let _ ← Engine.request (.setIntraOpThreads native options.intraOpThreads)
  if options.interOpThreads > 0 then
    let _ ← Engine.request (.setInterOpThreads native options.interOpThreads)

/-- Sets the options and loads the model with them. -/
def load (runtime : Runtime) (modelPath : String) (native : Handle) (options : SessionOptions) :
    Action RuntimeError (Option Handle) := do
  setOptions native options
  Engine.request (.createSession runtime.environment modelPath native)

/-- Loads a model bound to the given values.  The native options live only
during the call. -/
def create (host : Host) (runtime : Runtime) (request : SessionRequest)
    (options : SessionOptions) : Action RuntimeError Session := do
  let (inputs, outputs) ← ofExcept (request.bindings (host.files.present request.modelPath))
  match ← Engine.request .createSessionOptions with
  | none => throw (.invalidInput .nullOptions)
  | some native =>
      let result ← attempt (ε := RuntimeError) (load runtime request.modelPath native options)
      Engine.release native
      match result with
      | .error error => throw error
      | .ok none => throw (.invalidInput .nullSession)
      | .ok (some handle) =>
          note .debug s!"Created session for {request.modelPath}"
          runtime.retain
          return { handle := some handle, inputs, outputs, modelPath := request.modelPath, runtime }

/-- Values handed to a run must be the ones that were bound, in their order. -/
def checkBound (side : Side) : Nat → List (Option Handle) → List Binding → Except SessionFault Unit
  | position, given :: rest, binding :: bindings =>
      if given = some binding.value then checkBound side (position + 1) rest bindings
      else .error (.unboundValue side position)
  | _, _, _ => .ok ()

def checkSide (side : Side) (given : List (Option Handle)) (bindings : List Binding) :
    Except SessionFault Unit :=
  if given.length ≠ bindings.length then
    .error (.wrongCount side bindings.length given.length)
  else checkBound side 0 given bindings

/-- Runs the model.  Either end says what the run leaves in the outputs. -/
def run (session : Session) (inputs : List Operand) (outputs : List (Option Handle)) :
    Action FailedRun RunEffect := do
  match session.handle with
  | none => throw (.refused (.destroyed "session"))
  | some handle =>
      mapFailure (fun fault => .refused (.invalidInput fault)) do
        ofExcept (checkSide .input (inputs.map (·.value)) session.inputs)
        ofExcept (checkSide .output outputs session.outputs)
      let bound := session.inputs.zip (inputs.map (·.contents))
      Engine.requestRun (.run handle bound session.outputs)

/-- Releases the native session; a second time it does nothing. -/
def destroy (session : Session) : Step Session := do
  match session.handle with
  | none => return session
  | some handle =>
      Engine.release handle
      note .debug s!"Destroyed session for {session.modelPath}"
      return { session with handle := none }

/-- Ends a session that may still be live, and gives up its runtime. -/
def discard (session : Session) : Step Unit := do
  if session.handle.isSome then
    note .debug s!"Session for {session.modelPath} released on drop"
  let _ ← session.destroy
  session.runtime.letGo

def description (session : Session) : String :=
  let names (bindings : List Binding) :=
    Text.bracketed (bindings.map fun binding => Text.quotedName binding.name)
  Text.braced "InferenceSession" [
    ("model_path", Text.quotedPath session.modelPath),
    ("inputs", names session.inputs),
    ("outputs", names session.outputs),
    ("live", toString session.handle.isSome)]

end Session

end TextVectors.Inference

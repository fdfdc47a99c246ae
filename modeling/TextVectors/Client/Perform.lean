import TextVectors.Client.Basic

namespace TextVectors.Client

/-! Carrying out what a client asks for.

Every operation is a task over the holdings.  The names it mentions are looked up
first, and settings are read before anything is asked of the library.
-/

open Inference

/-- The runtime of that name, or the loaded one where no name is given. -/
def runtimeFor (name : Option String) : Task Runtime := do
  let holdings ← get
  match name with
  | some name => Task.require .unknownName (holdings.runtime? name)
  | none => Task.ofExcept .runtime holdings.environment.loaded

def tensorNamed (name : String) : Task AnyTensor := do
  Task.require .unknownName ((← get).tensor? name)

def sessionNamed (name : String) : Task Session := do
  Task.require .unknownName ((← get).session? name)

def embedderNamed (name : String) : Task HeldEmbedder := do
  Task.require .unknownName ((← get).embedder? name)

/-- The native value of a tensor, while it is live. -/
def valueOf (tensor : AnyTensor) : Option Handle :=
  tensor.tensor.value

def setLibraryPath (path : String) : Task Reply := do
  let environment ← Task.ofExcept .runtime ((← get).environment.setLibraryPath path)
  storeEnvironment environment
  return .done

def setLogLevel (level : Json) : Task Reply := do
  let level ← Task.require .unreadable (LoggingLevel.ofJson? level)
  let environment ← Task.ofExcept .runtime ((← get).environment.setLogLevel level)
  storeEnvironment environment
  return .done

def load : Task Unit := do
  let holdings ← get
  storeEnvironment (← Task.ofAction .runtime (holdings.environment.load holdings.host))

def unload : Task Unit := do
  let environment ← ((← get).environment.unload : Step Environment)
  storeEnvironment environment

/-- How many of so many loads succeed. -/
def loadTimes : Nat → Task Nat
  | 0 => return 0
  | count + 1 => do
      let succeeded ← tryCatch (do load; return 1) fun _ => return 0
      return succeeded + (← loadTimes count)

def unloadTimes : Nat → Task Unit
  | 0 => return ()
  | count + 1 => do
      unload
      unloadTimes count

def holdRuntime (name : String) : Task Reply := do
  let runtime ← runtimeFor none
  (runtime.retain : Step Unit)
  keepRuntime name runtime
  return .runtime runtime

/-- A tensor over the given cells, or over zeros. -/
def buildTensor (runtime : Runtime) (shape : Shape) (element : ElementType)
    (cells : Option (List element.Cell)) : Action RuntimeError (Tensor element) :=
  match cells with
  | some cells => Tensor.create runtime shape cells
  | none => Tensor.zeros element runtime shape

def createTensor (name : String) (element : ElementType) (source : ShapeSource)
    (cells : Option (List element.Cell)) (runtime : Option String) : Task Reply := do
  let runtime ← runtimeFor runtime
  let shape ← Task.ofExcept (fun fault => .runtime (.invalidShape fault)) source.shape
  let tensor ← Task.ofAction .runtime (buildTensor runtime shape element cells)
  keepTensor name ⟨element, tensor⟩
  return .tensor ⟨element, tensor⟩

def writeTensor (name : String) (position : Nat)
    (value : (element : ElementType) → element.Cell) : Task Reply := do
  let held ← tensorNamed name
  let changed : AnyTensor := ⟨held.element, held.tensor.set position (value held.element)⟩
  storeTensor name changed
  return .tensor changed

def destroyTensor (name : String) : Task Reply := do
  let held ← tensorNamed name
  let tensor ← (held.tensor.destroy : Step (Tensor held.element))
  storeTensor name ⟨held.element, tensor⟩
  return .tensor ⟨held.element, tensor⟩

def readOptions (options : Option Json) : Task SessionOptions :=
  match options with
  | none => return {}
  | some options => Task.require .unreadable (SessionOptions.ofJson? options)

def createSession (name model : String) (inputNames outputNames : List String)
    (tensors : TensorNames) (options : Option Json) (runtime : Option String) : Task Reply := do
  let inputs ← tensors.inputs.mapM tensorNamed
  let outputs ← tensors.outputs.mapM tensorNamed
  let options ← readOptions options
  let runtime ← runtimeFor runtime
  let request : SessionRequest := {
    modelPath := model
    inputNames
    outputNames
    inputs := inputs.map valueOf
    outputs := outputs.map valueOf }
  let session ← Task.ofAction .runtime (Session.create (← get).host runtime request options)
  keepSession name session
  return .session session

def destroySession (name : String) : Task Reply := do
  let session ← ((← sessionNamed name).destroy : Step Session)
  storeSession name session
  return .session session

/-- The buffer of a tensor as it is handed to a session. -/
def operandOf (tensor : AnyTensor) : Operand :=
  tensor.tensor.operand

/-- Lets outputs take what a run wrote, each at its position. -/
def receiveOutputs (effect : RunEffect) : Nat → List (String × AnyTensor) → Task (List Contents)
  | _, [] => return []
  | position, (name, held) :: rest => do
      let received : AnyTensor := ⟨held.element, held.tensor.receive effect position⟩
      storeTensor name received
      return received.tensor.contents :: (← receiveOutputs effect (position + 1) rest)

/-- Outputs are written to, so no tensor can stand twice among them or be an
input at the same time. -/
def checkExclusive (tensors : TensorNames) : Task Unit := do
  if !tensors.outputs.Nodup || tensors.inputs.any tensors.outputs.contains then
    Task.fail .unknownName

def runSession (name : String) (tensors : TensorNames) : Task Reply := do
  let session ← sessionNamed name
  checkExclusive tensors
  let inputs ← tensors.inputs.mapM tensorNamed
  let outputs ← tensors.outputs.mapM tensorNamed
  let ran ← (attempt (session.run (inputs.map operandOf) (outputs.map valueOf)) :
    Step (Except FailedRun RunEffect))
  let contents ← receiveOutputs (FailedRun.left ran) 0 (tensors.outputs.zip outputs)
  let _ ← Task.ofExcept (fun failed => .runtime failed.error) ran
  return .outputs contents

/-- A new embedder, and whether its tokenizer is the client's own. -/
def openedFrom {C E ρ : Type} (kind : EmbedderKind C E ρ) (host : Host) (model : String)
    (tokenizer : TokenizerSource) (config : C) : Action EmbeddingError (E × Bool) :=
  match tokenizer with
  | .file path => (·, false) <$> kind.fromFiles host model path config
  | .given tokenizer => (·, true) <$> kind.withTokenizer host model tokenizer config

/-- Opens an embedder and holds it under a name. -/
def openEmbedder {C E ρ : Type} (kind : EmbedderKind C E ρ) (wrap : E → Embedder)
    (name model : String) (tokenizer : TokenizerSource) (config : C) : Task E := do
  let host := (← get).host
  let (embedder, ownTokenizer) ←
    Task.ofAction .embedding (openedFrom kind host model tokenizer config)
  keepEmbedder name { embedder := wrap embedder, ownTokenizer }
  return embedder

def openDense (name model : String) (tokenizer : TokenizerSource) (config : Json) :
    Task Reply := do
  let config ← Task.require .unreadable (DenseConfig.ofJson? config)
  return .dense (← openEmbedder DenseEmbedder.kind .dense name model tokenizer config)

/-- A pre-processor is no part of the settings that are read. -/
def sparseConfig? (config : Json) (preProcessor : Option PreProcessor) : Option SparseConfig :=
  (SparseConfig.ofJson? config).map fun config => { config with preProcessor }

def openSparse (name model : String) (tokenizer : TokenizerSource) (config : Json)
    (preProcessor : Option PreProcessor) : Task Reply := do
  let config ← Task.require .unreadable (sparseConfig? config preProcessor)
  return .sparse (← openEmbedder SparseEmbedder.kind .sparse name model tokenizer config)

/-- What an operation leaves of an embedder goes back under its name, whatever comes out of it. -/
def putBack {E α : Type} (name : String) (wrap : E → HeldEmbedder)
    (operation : Step (Except EmbeddingError α × E)) : Task α := do
  let (result, after) ← (operation : Step (Except EmbeddingError α × E))
  storeEmbedder name (wrap after)
  Task.ofExcept .embedding result

/-- Carries out an operation on the embedder of a name, for either kind. -/
def onEmbedder {α β : Type} (name : String)
    (dense : DenseEmbedder → Holdings → Step (Except EmbeddingError α × DenseEmbedder))
    (sparse : SparseEmbedder → Holdings → Step (Except EmbeddingError β × SparseEmbedder))
    (denseReply : α → Reply) (sparseReply : β → Reply) : Task Reply := do
  let held ← embedderNamed name
  let holdings ← get
  match held.embedder with
  | .dense embedder =>
      return denseReply (← putBack name ({ held with embedder := .dense · })
        (dense embedder holdings))
  | .sparse embedder =>
      return sparseReply (← putBack name ({ held with embedder := .sparse · })
        (sparse embedder holdings))

def embed (name : String) (documents : List String) : Task Reply :=
  onEmbedder name
    (fun embedder holdings =>
      embedder.embedDocuments holdings.host holdings.environment documents)
    (fun embedder holdings =>
      embedder.embedDocuments holdings.host holdings.environment documents)
    .rows .vectors

def query (name text : String) : Task Reply :=
  onEmbedder name
    (fun embedder holdings => embedder.embedQuery holdings.host holdings.environment text)
    (fun embedder holdings => embedder.embedQuery holdings.host holdings.environment text)
    .row .vector

def close (name : String) : Task Reply :=
  onEmbedder name (fun embedder _ => embedder.close) (fun embedder _ => embedder.close)
    (fun () => .done) (fun () => .done)

/-- Gives up a runtime, otherwise a session, a tensor or an embedder of that
name. -/
def discard (name : String) : Task Reply := do
  let holdings ← get
  if let some runtime := holdings.runtime? name then
    set { holdings with runtimes := holdings.runtimes.erase name }
    (runtime.letGo : Step Unit)
    return .discarded true
  else if let some session := holdings.session? name then
    set { holdings with sessions := holdings.sessions.erase name }
    (session.discard : Step Unit)
    return .discarded true
  else if let some tensor := holdings.tensor? name then
    set { holdings with tensors := holdings.tensors.erase name }
    (discardTensor tensor : Step Unit)
    return .discarded true
  else if let some held := holdings.embedder? name then
    set { holdings with embedders := holdings.embedders.erase name }
    (held.embedder.discard : Step Unit)
    return .discarded true
  else return .discarded false

/-- The description of the environment or of what is held under a name; empty
if there is nothing. -/
def Holdings.describe (holdings : Holdings) (name : String) : String :=
  if name = "env" then holdings.environment.description
  else if let some runtime := holdings.runtime? name then runtime.description
  else if let some held := holdings.tensor? name then held.tensor.description
  else if let some session := holdings.session? name then session.description
  else if let some held := holdings.embedder? name then held.embedder.description
  else ""

def task : Operation → Task Reply
  | .inspect => return .done
  | .setLibraryPath path => setLibraryPath path
  | .setLogLevel level => setLogLevel level
  | .load => do load; return .done
  | .unload => do unload; return .done
  | .loadTimes count => .succeeded <$> loadTimes count
  | .unloadTimes count => do unloadTimes count; return .succeeded count
  | .holdRuntime name => holdRuntime name
  | .createTensor name element shape cells runtime => createTensor name element shape cells runtime
  | .readTensor name => .tensor <$> tensorNamed name
  | .writeTensor name position value => writeTensor name position value
  | .destroyTensor name => destroyTensor name
  | .createSession name model inputNames outputNames tensors options runtime =>
      createSession name model inputNames outputNames tensors options runtime
  | .readSession name => .session <$> sessionNamed name
  | .destroySession name => destroySession name
  | .runSession name tensors => runSession name tensors
  | .openDense name model tokenizer config => openDense name model tokenizer config
  | .openSparse name model tokenizer config preProcessor =>
      openSparse name model tokenizer config preProcessor
  | .embed name documents => embed name documents
  | .query name text => query name text
  | .close name => close name
  | .discard name => discard name
  | .describe name => return .description ((← get).describe name)

def perform (operation : Operation) (holdings : Holdings) :
    Step (Except ClientError Reply × Holdings) :=
  (task operation).run.run holdings

def performAll : List Operation → Holdings → Step (List (Except ClientError Reply) × Holdings)
  | [], holdings => return ([], holdings)
  | operation :: rest, holdings => do
      let (reply, holdings) ← perform operation holdings
      let (replies, holdings) ← performAll rest holdings
      return (reply :: replies, holdings)

/-- Gives up everything but the environment: embedders, then sessions, tensors
and runtimes, each in the order of their names. -/
def Holdings.release (holdings : Holdings) : Step Holdings := do
  holdings.embedders.values.forM fun held => held.embedder.discard
  holdings.sessions.values.forM Session.discard
  holdings.tensors.values.forM discardTensor
  holdings.runtimes.values.forM Runtime.letGo
  return { host := holdings.host, environment := holdings.environment }

def Holdings.leave (holdings : Holdings) : Step Unit := do
  let _ ← holdings.environment.detach

end TextVectors.Client

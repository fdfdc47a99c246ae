import TextVectors.Embedding.Config
import TextVectors.Embedding.Run

namespace TextVectors

/-! What embedders of both kinds do in the same way: how they are opened, embed
documents and are closed.

A kind says how its embedders are configured and how they work on documents.  Its
laws say that nothing but the memory of an embedder ever changes.
-/

open Inference

/-- What changes in an embedder over its life. -/
structure EmbedderMemory where
  /-- Gone once the embedder is closed. -/
  tokenizer : Option Tokenizer
  sessions : SessionCache BatchSession
  /-- Decoded tokens by vocabulary index, where a kind remembers them. -/
  labels : List (Nat × String)

/-- How the embedders `E` of a kind are made from configurations `C` and turn
documents into results `ρ`. -/
structure EmbedderKind (C E ρ : Type) where
  title : String
  model : C → ModelConfig
  validate : C → Except ConfigFault Unit
  /-- The configuration with what it leaves to the tokenizer. -/
  settle : Tokenizer → C → Except ConfigFault C
  /-- The length of all encodings, where a tokenizer that is read from a file is given one. -/
  fixedLength : C → Option Nat
  build : String → C → EmbedderMemory → E
  /-- What is told of a new embedder after its model and the length of its rows. -/
  summary : E → String
  binding : E → ModelBinding
  outputShape : E → Nat → Except EmbeddingError (List Int)
  /-- Embeds documents while the embedder is open. -/
  work : E → EmbedAction.Source → Tokenizer → List String → EmbedAction (List ρ)
  memory : E → EmbedderMemory
  remember : E → EmbedderMemory → E
  binding_build : ∀ modelPath config memory,
    (binding (build modelPath config memory)).modelPath = modelPath
  remember_build : ∀ modelPath config memory other,
    remember (build modelPath config memory) other = build modelPath config other
  binding_remember : ∀ embedder other, binding (remember embedder other) = binding embedder
  outputShape_remember : ∀ embedder other,
    outputShape (remember embedder other) = outputShape embedder
  work_remember : ∀ embedder other, work (remember embedder other) = work embedder
  remember_remember : ∀ embedder memory other,
    remember (remember embedder memory) other = remember embedder other
  remember_memory : ∀ embedder, remember embedder (memory embedder) = embedder
  tokenizer_remember : ∀ embedder other,
    (memory (remember embedder other)).tokenizer = other.tokenizer
  sessions_remember : ∀ embedder other,
    (memory (remember embedder other)).sessions = other.sessions
  /-- Labels may be forgotten. -/
  labels_remember : ∀ embedder other, (memory (remember embedder other)).labels ⊆ other.labels

def ModelConfig.binding (config : ModelConfig) (modelPath : String) : ModelBinding where
  modelPath := modelPath
  inputNames := config.inputNames
  outputName := config.outputName
  sequenceLength := config.sequenceLength
  options := config.session

namespace EmbedderKind

variable {C E ρ : Type}

def sessions (kind : EmbedderKind C E ρ) (embedder : E) : SessionCache BatchSession :=
  (kind.memory embedder).sessions

def isClosed (kind : EmbedderKind C E ρ) (embedder : E) : Bool :=
  (kind.memory embedder).tokenizer.isNone

/-- An embedder with nothing remembered but its tokenizer. -/
def configured (kind : EmbedderKind C E ρ) (modelPath : String) (tokenizer : Tokenizer)
    (config : C) (sessions : SessionCache BatchSession) : E :=
  kind.build modelPath config { tokenizer := some tokenizer, sessions, labels := [] }

/-- An embedder with a tokenizer of the caller. -/
def withTokenizer (kind : EmbedderKind C E ρ) (host : Host) (modelPath : String)
    (tokenizer : Tokenizer) (config : C) : Action EmbeddingError E := do
  ofExcept (checkFile host modelPath "model")
  mapFailure .config (ofExcept (kind.validate config))
  let settled ← mapFailure .config (ofExcept (kind.settle tokenizer config))
  let model := kind.model config
  let sessions ← mapFailure .config (ofExcept (SessionCache.new model.maxCachedSessions))
  let embedder := kind.configured modelPath tokenizer settled sessions
  note .info <| s!"{kind.title} embedder ready: model={modelPath} seq={model.sequenceLength}" ++
    kind.summary embedder
  return embedder

/-- An embedder whose tokenizer is read from a file. -/
def fromFiles (kind : EmbedderKind C E ρ) (host : Host) (modelPath tokenizerPath : String)
    (config : C) : Action EmbeddingError E := do
  ofExcept (checkFile host modelPath "model")
  ofExcept (checkFile host tokenizerPath "tokenizer")
  mapFailure .config (ofExcept (kind.validate config))
  let definition ← mapFailure
    (fun error => .context "failed to load tokenizer" (.tokenizer error)) do
      let definition ← loadTokenizer host tokenizerPath
      match kind.fixedLength config with
      | some length => ofExcept (WordPiece.checkFixedLength length)
      | none => pure ()
      return definition
  kind.withTokenizer host modelPath (definition.tokenizer (kind.fixedLength config)) config

/-- Where the sessions of an embedder come from. -/
def source (kind : EmbedderKind C E ρ) (embedder : E) (host : Host) (runtime : Runtime) :
    EmbedAction.Source where
  host := host
  runtime := runtime
  binding := kind.binding embedder
  outputShape := kind.outputShape embedder

/-- Embeds documents that are not none at all. -/
def embedBatch (kind : EmbedderKind C E ρ) (embedder : E) (host : Host) (environment : Environment)
    (documents : List String) : EmbedAction (List ρ) := do
  let some tokenizer := (kind.memory embedder).tokenizer | throw .closed
  let runtime ← EmbedAction.ofExcept (runtimeOf environment)
  kind.work embedder (kind.source embedder host runtime) tokenizer documents

/-- The state in which an embedder begins to embed. -/
def start (kind : EmbedderKind C E ρ) (embedder : E) (engine : Engine) : EmbedState where
  sessions := (kind.memory embedder).sessions
  labels := (kind.memory embedder).labels
  engine := engine

/-- An embedder with what embedding leaves. -/
def keep (kind : EmbedderKind C E ρ) (embedder : E) (after : EmbedState) : E :=
  kind.remember embedder
    { kind.memory embedder with sessions := after.sessions, labels := after.labels }

def embedDocuments (kind : EmbedderKind C E ρ) (embedder : E) (host : Host)
    (environment : Environment) (documents : List String) :
    Step (Except EmbeddingError (List ρ) × E) := fun engine =>
  if documents.isEmpty then ((.ok [], embedder), engine)
  else
    match kind.embedBatch embedder host environment documents (kind.start embedder engine) with
    | .ok results after => ((.ok results, kind.keep embedder after), after.engine)
    | .error error after => ((.error error, kind.keep embedder after), after.engine)

def embedQuery (kind : EmbedderKind C E ρ) (embedder : E) (host : Host) (environment : Environment)
    (query : String) : Step (Except EmbeddingError ρ × E) := do
  let (result, embedder) ← kind.embedDocuments embedder host environment [query]
  return (result.bind single, embedder)

/-- Destroys the cached sessions and gives up everything else that is remembered. -/
def close (kind : EmbedderKind C E ρ) (embedder : E) : Step (Except EmbeddingError Unit × E) := do
  let (result, sessions) ← (kind.memory embedder).sessions.close closingActions
  if (kind.memory embedder).tokenizer.isSome then
    note .info s!"{kind.title} embedder closed: {(kind.binding embedder).modelPath}"
  return (result, kind.remember embedder { tokenizer := none, sessions, labels := [] })

/-- Ends an embedder with whatever it still has cached. -/
def discard (kind : EmbedderKind C E ρ) (embedder : E) : Step Unit :=
  (kind.memory embedder).sessions.discard closingActions

end EmbedderKind

end TextVectors

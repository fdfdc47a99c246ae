import TextVectors.Embedding.BatchSession
import TextVectors.Inference.Environment
import TextVectors.SessionCache

namespace TextVectors

/-! How embedders work: tokenizing documents, and running batches on cached
sessions.
-/

open Inference

/-- What an embedder may change while it embeds.  All of it keeps the changes
made before a failure. -/
structure EmbedState where
  sessions : SessionCache BatchSession
  /-- Decoded tokens by vocabulary index. -/
  labels : List (Nat × String)
  engine : Engine

abbrev EmbedAction := EStateM EmbeddingError EmbedState

namespace EmbedAction

/-- An operation on the engine alone. -/
def ofAction (action : Action EmbeddingError α) : EmbedAction α := fun state =>
  match action state.engine with
  | .ok value engine => .ok value { state with engine }
  | .error error engine => .error error { state with engine }

def ofStep (step : Step α) : EmbedAction α := fun state =>
  let (value, engine) := step state.engine
  .ok value { state with engine }

def ofExcept (result : Except EmbeddingError α) : EmbedAction α :=
  ofAction (TextVectors.ofExcept result)

/-- Where a batch session comes from: what is bound, and the shape of the output
for each batch size. -/
structure Source where
  host : Host
  runtime : Runtime
  binding : ModelBinding
  outputShape : Nat → Except EmbeddingError (List Int)

def Source.create (source : Source) (batch : Nat) : Action EmbeddingError BatchSession := do
  let shape ← TextVectors.ofExcept (source.outputShape batch)
  BatchSession.create source.host source.runtime source.binding batch shape

end EmbedAction

/-- Destroying a batch session does not fail. -/
def disposeSession (bundle : BatchSession) : Step (Except EmbeddingError Unit) := do
  bundle.dispose
  return .ok ()

def EmbedAction.Source.actions (source : EmbedAction.Source) :
    ResourceActions Step BatchSession where
  create batch := attempt (source.create batch)
  destroy := disposeSession

/-- Cached sessions are only destroyed here. -/
def closingActions : ResourceActions Step BatchSession where
  create _ := return .error .closed
  destroy := disposeSession

namespace EmbedAction

/-- The session of a batch size, from the cache or newly created. -/
def acquire (source : Source) (batch : Nat) : EmbedAction BatchSession := fun state =>
  let ((result, sessions), engine) := state.sessions.acquire source.actions batch state.engine
  let after := { state with sessions, engine }
  match result with
  | .ok bundle => .ok bundle after
  | .error error => .error error after

def store (bundle : BatchSession) : EmbedAction Unit :=
  modify fun state => { state with sessions := state.sessions.update bundle.batch bundle }

/-- Runs a batch session and puts it back, with what the run left in its output. -/
def runStored (bundle : BatchSession) (runContext : String) : EmbedAction BatchSession := do
  let (ran, bundle) ← ofStep bundle.run
  store bundle
  ofExcept (ran.mapError fun error => .context runContext (.runtime error))
  return bundle

/-- Fills the session of a batch size and runs it. -/
def runBatch (source : Source) (batch : Nat)
    (fill : BatchSession → Except EmbeddingError Unit × BatchSession)
    (fillFailure : EmbeddingError → EmbeddingError) (runContext : String) :
    EmbedAction BatchSession := do
  let bundle ← acquire source batch
  let (filled, bundle) := fill bundle
  store bundle
  ofExcept (filled.mapError fillFailure)
  runStored bundle runContext

end EmbedAction

/-- Asks a tokenizer for the encoding of a text. -/
def Tokenizer.askEncode (tokenizer : Tokenizer) (text : String) :
    Step (Except TokenizerError Encoding) := do
  Engine.consult (.encode text)
  return tokenizer.encode text

/-- Asks a tokenizer for the text of ids. -/
def Tokenizer.askDecode (tokenizer : Tokenizer) (ids : List Nat) (skipSpecial : Bool) :
    Step (Except TokenizerError String) := do
  Engine.consult (.decode ids skipSpecial)
  return tokenizer.decode ids skipSpecial

/-- Encodes documents in their order, up to the first that fails. -/
def encodeAll (tokenizer : Tokenizer) : Nat → List String → Action EmbeddingError (List Encoding)
  | _, [] => return []
  | position, document :: rest => do
      match ← tokenizer.askEncode document with
      | .error error =>
          throw (.context s!"failed to tokenize document {position}" (.tokenizer error))
      | .ok encoding => return encoding :: (← encodeAll tokenizer (position + 1) rest)

/-- How the output and the mask of so many rows become their results. -/
abbrev Reduction (ρ : Type) := List Float32 → List Int → Nat → Except InputFault (List ρ)

/-- Embeds documents as the rows of one batch. -/
def EmbedAction.embedRows (source : EmbedAction.Source) (tokenizer : Tokenizer)
    (reduce : Reduction ρ) (runContext : String) (documents : List String) :
    EmbedAction (List ρ) := do
  let encodings ← ofAction (encodeAll tokenizer 0 documents)
  let bundle ←
    runBatch source documents.length (fun bundle => bundle.fillEncodings encodings) id runContext
  ofExcept
    ((reduce bundle.output.cells bundle.mask.cells documents.length).mapError .invalidInput)

/-- A path must be given and name a regular file. -/
def checkFile (host : Host) (path subject : String) : Except EmbeddingError Unit :=
  if path = "" then .error (.invalidInput (.emptyPath subject))
  else if host.files.isFile path then .ok ()
  else .error (.fileNotFound s!"{subject} path {path} is not usable")

/-- The runtime of an environment that is up. -/
def runtimeOf (environment : Environment) : Except EmbeddingError Runtime :=
  match environment.runtime with
  | some runtime => .ok runtime
  | none => .error .runtimeNotInitialized

def loadTokenizer (host : Host) (path : String) : Action TokenizerError WordPiece := do
  let definition ← ofExcept (host.loadTokenizer path)
  note .debug s!"Loaded tokenizer from {path}"
  return definition

/-- The only result of a query. -/
def single (results : List α) : Except EmbeddingError α :=
  match results with
  | [result] => .ok result
  | _ => .error (.invalidInput (.resultCount results.length))

end TextVectors

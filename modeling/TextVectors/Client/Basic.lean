import TextVectors.Client.Operation

namespace TextVectors.Client

/-! What a client holds: the environment, and its runtimes, tensors, sessions and
embedders by name.
-/

open Inference

inductive Embedder where
  | dense (embedder : DenseEmbedder)
  | sparse (embedder : SparseEmbedder)

namespace Embedder

/-- The cached batch sizes, least recently used first. -/
def batchSizes : Embedder → List Nat
  | .dense embedder => embedder.sessions.batchSizes
  | .sparse embedder => embedder.sessions.batchSizes

def isClosed : Embedder → Bool
  | .dense embedder => embedder.isClosed
  | .sparse embedder => embedder.isClosed

def description : Embedder → String
  | .dense embedder => embedder.description
  | .sparse embedder => embedder.description

def discard : Embedder → Step Unit
  | .dense embedder => embedder.discard
  | .sparse embedder => embedder.discard

end Embedder

/-- An embedder in the hands of a client, who sees what a tokenizer of its own is
asked. -/
structure HeldEmbedder where
  embedder : Embedder
  ownTokenizer : Bool

structure Holdings where
  host : Host
  environment : Environment := {}
  runtimes : NameTable Runtime := {}
  tensors : NameTable AnyTensor := {}
  sessions : NameTable Session := {}
  embedders : NameTable HeldEmbedder := {}

/-- A part of an operation.  What is held after a failure is what was held when
it happened. -/
abbrev Task := ExceptT ClientError (StateT Holdings Step)

namespace Task

def fail (error : ClientError) : Task α :=
  throw error

/-- An operation of the library, whose failure is the client's. -/
def ofAction (wrap : ε → ClientError) (action : Action ε α) : Task α := do
  match ← (attempt (ε := ε) action : Step (Except ε α)) with
  | .ok value => return value
  | .error error => throw (wrap error)

def ofExcept (wrap : ε → ClientError) (result : Except ε α) : Task α :=
  match result with
  | .ok value => return value
  | .error error => throw (wrap error)

/-- What must be there for the operation to make sense. -/
def require (missing : ClientError) (found : Option α) : Task α :=
  match found with
  | some value => return value
  | none => throw missing

end Task

namespace Holdings

def runtime? (holdings : Holdings) (name : String) : Option Runtime :=
  holdings.runtimes.find? name

def tensor? (holdings : Holdings) (name : String) : Option AnyTensor :=
  holdings.tensors.find? name

def session? (holdings : Holdings) (name : String) : Option Session :=
  holdings.sessions.find? name

def embedder? (holdings : Holdings) (name : String) : Option HeldEmbedder :=
  holdings.embedders.find? name

end Holdings

def discardTensor (tensor : AnyTensor) : Step Unit :=
  tensor.tensor.discard

/-- Holds a runtime under a name; what the name stood for is given up then. -/
def keepRuntime (name : String) (runtime : Runtime) : Task Unit := do
  let replaced := (← get).runtime? name
  modify fun holdings => { holdings with runtimes := holdings.runtimes.put name runtime }
  match replaced with
  | some old => (old.letGo : Step Unit)
  | none => pure ()

def keepTensor (name : String) (tensor : AnyTensor) : Task Unit := do
  let replaced := (← get).tensor? name
  modify fun holdings => { holdings with tensors := holdings.tensors.put name tensor }
  match replaced with
  | some old => discardTensor old
  | none => pure ()

def keepSession (name : String) (session : Session) : Task Unit := do
  let replaced := (← get).session? name
  modify fun holdings => { holdings with sessions := holdings.sessions.put name session }
  match replaced with
  | some old => old.discard
  | none => pure ()

def keepEmbedder (name : String) (embedder : HeldEmbedder) : Task Unit := do
  let replaced := (← get).embedder? name
  modify fun holdings => { holdings with embedders := holdings.embedders.put name embedder }
  match replaced with
  | some old => old.embedder.discard
  | none => pure ()

/-- Puts a changed tensor back under its name. -/
def storeTensor (name : String) (tensor : AnyTensor) : Task Unit :=
  modify fun holdings => { holdings with tensors := holdings.tensors.put name tensor }

def storeSession (name : String) (session : Session) : Task Unit :=
  modify fun holdings => { holdings with sessions := holdings.sessions.put name session }

def storeEmbedder (name : String) (embedder : HeldEmbedder) : Task Unit :=
  modify fun holdings => { holdings with embedders := holdings.embedders.put name embedder }

def storeEnvironment (environment : Environment) : Task Unit :=
  modify fun holdings => { holdings with environment }

end TextVectors.Client

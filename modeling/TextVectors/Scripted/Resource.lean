import TextVectors.SessionCache

namespace TextVectors.Scripted

/-! Resources that follow a script, for caches without sessions.

A resource only knows the batch size that it was made for, and the failure that
it reports when it is destroyed.
-/

structure Resource where
  batch : Nat
  failure : Option EmbeddingError
deriving Repr

/-- What was done with resources, newest first. -/
structure ResourceTrace where
  created : List Nat := []
  destroyed : List Nat := []
  log : List LogEntry := []

abbrev ResourceStep := StateM ResourceTrace

instance : MonadNote ResourceStep where
  note severity text := modify fun trace => { trace with log := ⟨severity, text⟩ :: trace.log }

namespace Resource

def destroy (resource : Resource) : ResourceStep (Except EmbeddingError Unit) := do
  modify fun trace => { trace with destroyed := resource.batch :: trace.destroyed }
  match resource.failure with
  | none => return .ok ()
  | some failure => return .error failure

/-- Makes a resource that will report `failure` when it is destroyed, or fails
to make it. -/
def create (refusal failure : Option EmbeddingError) (batch : Nat) :
    ResourceStep (Except EmbeddingError Resource) := do
  modify fun trace => { trace with created := batch :: trace.created }
  match refusal with
  | none => return .ok { batch, failure }
  | some refusal => return .error refusal

def actions (refusal failure : Option EmbeddingError) : ResourceActions ResourceStep Resource where
  create := create refusal failure
  destroy := destroy

end Resource

/-- What to do with a cache of such resources. -/
inductive CacheRequest where
  /-- The resource, if one is created, reports `failure` in the end; creating it
  fails if there is a `refusal`. -/
  | acquire (batch : Nat) (refusal failure : Option EmbeddingError)
  | close

/-- Carries out a request; acquiring answers with the resource. -/
def CacheRequest.perform (request : CacheRequest) (cache : SessionCache Resource) :
    ResourceStep (Except EmbeddingError (Option Resource) × SessionCache Resource) := do
  match request with
  | .acquire batch refusal failure =>
      let (result, cache) ← cache.acquire (Resource.actions refusal failure) batch
      return (result.map some, cache)
  | .close =>
      let (result, cache) ← cache.close (Resource.actions none none)
      return (result.map fun _ => none, cache)

end TextVectors.Scripted

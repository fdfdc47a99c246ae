import TextVectors.Embedding.Error
import TextVectors.Log

namespace TextVectors

/-! A bounded cache of resources by batch size.

The entries are kept beside the order in which they were last used, least
recently used first.  When the cache is full, the least recently used entry makes
room before a new resource is created.  Creating and destroying resources are
operations of the caller, in whatever monad they live.
-/

structure SessionCache (ρ : Type) where
  capacity : Nat
  entries : List (Nat × ρ)
  order : List Nat
deriving Repr

structure ResourceActions (m : Type → Type) (ρ : Type) where
  create : Nat → m (Except EmbeddingError ρ)
  /-- Destroys a resource for good, even when it reports a failure. -/
  destroy : ρ → m (Except EmbeddingError Unit)

namespace SessionCache

variable {ρ : Type} {m : Type → Type}

/-- A new cache, which must have room for one entry. -/
def new (capacity : Nat) : Except ConfigFault (SessionCache ρ) :=
  if capacity = 0 then .error .cacheCapacityZero
  else .ok { capacity, entries := [], order := [] }

def size (cache : SessionCache ρ) : Nat :=
  cache.entries.length

def isEmpty (cache : SessionCache ρ) : Bool :=
  cache.entries.isEmpty

def find? (cache : SessionCache ρ) (batch : Nat) : Option ρ :=
  cache.entries.lookup batch

def contains (cache : SessionCache ρ) (batch : Nat) : Bool :=
  (cache.find? batch).isSome

/-- The cached batch sizes, least recently used first. -/
def batchSizes (cache : SessionCache ρ) : List Nat :=
  cache.order

/-- Makes a batch size the most recently used one. -/
def touch (cache : SessionCache ρ) (batch : Nat) : SessionCache ρ :=
  { cache with order := cache.order.filter (· != batch) ++ [batch] }

def insert (cache : SessionCache ρ) (batch : Nat) (resource : ρ) : SessionCache ρ :=
  { cache with entries := cache.entries ++ [(batch, resource)] }

def update (cache : SessionCache ρ) (batch : Nat) (resource : ρ) : SessionCache ρ :=
  { cache with entries := cache.entries.map fun entry =>
      if entry.1 = batch then (batch, resource) else entry }

/-- Takes the least recently used entry out and destroys it.  The entry is gone
even when destroying it fails. -/
def evictOldest [Monad m] [MonadNote m] (actions : ResourceActions m ρ) (cache : SessionCache ρ) :
    m (Except EmbeddingError Unit × SessionCache ρ) := do
  match cache.order with
  | [] => return (.ok (), cache)
  | oldest :: order =>
      let cache := { cache with order }
      match cache.find? oldest with
      | none => return (.ok (), cache)
      | some resource =>
          let cache := { cache with entries := cache.entries.filter (·.1 != oldest) }
          note .debug s!"Evicting session for batch size {oldest}"
          let result ← actions.destroy resource
          return (result.mapError (.context s!"failed to evict batch-{oldest} session"), cache)

def makeRoom [Monad m] [MonadNote m] (actions : ResourceActions m ρ) (cache : SessionCache ρ) :
    m (Except EmbeddingError Unit × SessionCache ρ) :=
  if cache.size ≥ cache.capacity then cache.evictOldest actions
  else return (.ok (), cache)

/-- Creates the resource of a batch size that is not cached. -/
def add [Monad m] [MonadNote m] (actions : ResourceActions m ρ) (cache : SessionCache ρ)
    (batch : Nat) : m (Except EmbeddingError ρ × SessionCache ρ) := do
  match ← cache.makeRoom actions with
  | (.error error, cache) => return (.error error, cache)
  | (.ok (), cache) =>
      match ← actions.create batch with
      | .error error => return (.error error, cache)
      | .ok resource =>
          note .debug s!"Cached session for batch size {batch}"
          return (.ok resource, (cache.insert batch resource).touch batch)

/-- The resource of a batch size, created if it is not cached. -/
def acquire [Monad m] [MonadNote m] (actions : ResourceActions m ρ) (cache : SessionCache ρ)
    (batch : Nat) : m (Except EmbeddingError ρ × SessionCache ρ) := do
  if batch = 0 then return (.error (.invalidInput .batchZero), cache)
  match cache.find? batch with
  | some resource => return (.ok resource, cache.touch batch)
  | none => cache.add actions batch

/-- Destroys resources one by one and collects the failures. -/
def destroyAll [Monad m] (actions : ResourceActions m ρ) :
    List (Nat × ρ) → m (List EmbeddingError)
  | [] => return []
  | (batch, resource) :: rest => do
      let result ← actions.destroy resource
      let failures ← destroyAll actions rest
      match result with
      | .ok () => return failures
      | .error error =>
          return .context s!"failed to destroy batch-{batch} session" error :: failures

/-- Destroys every entry and empties the cache; failures are joined. -/
def close [Monad m] (actions : ResourceActions m ρ) (cache : SessionCache ρ) :
    m (Except EmbeddingError Unit × SessionCache ρ) := do
  let failures ← destroyAll actions cache.entries
  let cache := { cache with entries := [], order := [] }
  match EmbeddingError.join failures with
  | none => return (.ok (), cache)
  | some error => return (.error error, cache)

/-- Ends a cache.  What is still cached is destroyed, and a failure is only
logged. -/
def discard [Monad m] [MonadNote m] (actions : ResourceActions m ρ) (cache : SessionCache ρ) :
    m Unit := do
  if !cache.isEmpty then
    match ← cache.close actions with
    | (.ok (), _) => return ()
    | (.error error, _) =>
        note .warn s!"Failed to release cached sessions on drop: {error.message}"

end SessionCache

end TextVectors

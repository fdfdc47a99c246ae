import TextVectors.Proofs.Cache.Custody
import TextVectors.Scripted.Resource

namespace TextVectors.SessionCache

/-! Acquiring that fails damages nothing else.

Room is made before a resource is created, so that either can fail after the cache has changed
already.  Whatever fails, at most one entry is gone then: the least recently used one, if the cache
was full and had no entry for the batch size.
-/

variable {σ ρ : Type}

/-- What a cache asks of its owner, with the answer. -/
inductive Exchange (ρ : Type) where
  | create (batch : Nat) (answer : Except EmbeddingError ρ)
  | destroy (resource : ρ) (answer : Except EmbeddingError Unit)

/-- The resource that was given to be destroyed, if any. -/
def Exchange.destroyed? : Exchange ρ → Option ρ
  | .create .. => none
  | .destroy resource _ => some resource

/-- A state with the exchanges that took place in it, oldest first. -/
structure Minuted (σ ρ : Type) where
  world : σ
  exchanges : List (Exchange ρ) := []

/-- The same operations, with minutes of what they are asked and answer. -/
def minuted (actions : ResourceActions (StateM σ) ρ) :
    ResourceActions (StateM (Minuted σ ρ)) ρ where
  create batch := fun minutes =>
    let (answer, world) := actions.create batch minutes.world
    (answer, { world, exchanges := minutes.exchanges ++ [.create batch answer] })
  destroy resource := fun minutes =>
    let (answer, world) := actions.destroy resource minutes.world
    (answer, { world, exchanges := minutes.exchanges ++ [.destroy resource answer] })

instance [MonadNote (StateM σ)] : MonadNote (StateM (Minuted σ ρ)) where
  note severity text := fun minutes =>
    ((), { minutes with world := ((note severity text : StateM σ Unit) minutes.world).2 })

/-- The caches that a new one can become, whatever creating and destroying do on the way.  Whoever
acquired a resource may change it. -/
inductive Reached (capacity : Nat) : SessionCache ρ → Prop
  | opened {cache} : new capacity = .ok cache → Reached capacity cache
  | acquired {cache} {σ : Type} [MonadNote (StateM σ)] (actions : ResourceActions (StateM σ) ρ)
      (batch : Nat) (state : σ) :
      Reached capacity cache → Reached capacity (cache.acquire actions batch state).1.2
  | changed {cache} (batch : Nat) (resource : ρ) :
      Reached capacity cache → Reached capacity (cache.update batch resource)
  | closed {cache} {σ : Type} (actions : ResourceActions (StateM σ) ρ) (state : σ) :
      Reached capacity cache → Reached capacity (cache.close actions state).1.2

/-- What a failed request leaves of a cache: all of it, or all but the entry that had to make room
and was destroyed for that. -/
inductive Spared (cache : SessionCache ρ) (batch : Nat) (rest : SessionCache ρ)
    (destroyed : List ρ) : Prop
  | whole : rest = cache → destroyed = [] → Spared cache batch rest destroyed
  | evicted {oldest resource} : cache.find? batch = none → cache.size = cache.capacity →
      cache.batchSizes = oldest :: rest.batchSizes → cache.find? oldest = some resource →
      (∀ other, rest.find? other = if other = oldest then none else cache.find? other) →
      destroyed = [resource] → Spared cache batch rest destroyed

/-- There was room for one more, or it was made at the cost of the least recently used entry. -/
inductive Roomed (cache : SessionCache ρ) : List (Exchange ρ) → Prop
  | spare : cache.size < cache.capacity → Roomed cache []
  | made {oldest order resource} : cache.size = cache.capacity →
      cache.batchSizes = oldest :: order → cache.find? oldest = some resource →
      Roomed cache [.destroy resource (.ok ())]

/-- How acquiring a batch size ends, and what was asked of the owner for it. -/
structure Sparing (cache : SessionCache ρ) (batch : Nat) (result : Except EmbeddingError ρ)
    (rest : SessionCache ρ) (exchanges : List (Exchange ρ)) : Prop where
  zero : batch = 0 →
    result = .error (.invalidInput .batchZero) ∧ rest = cache ∧ exchanges = []
  cached : ∀ resource, cache.find? batch = some resource →
    result = .ok resource ∧ rest.entries = cache.entries ∧ exchanges = []
  full : batch ≠ 0 → cache.find? batch = none → cache.size = cache.capacity →
    ∃ oldest order resource answer, cache.batchSizes = oldest :: order ∧
      cache.find? oldest = some resource ∧
      exchanges.head? = some (.destroy resource answer) ∧
      ∀ error, answer = .error error →
        result = .error (.context s!"failed to evict batch-{oldest} session" error) ∧
        rest.find? oldest = none ∧ rest.find? batch = none ∧
        exchanges = [.destroy resource answer]
  created : batch ≠ 0 → cache.find? batch = none →
    (cache.size = cache.capacity ∧
      ∃ resource error, exchanges = [.destroy resource (.error error)]) ∨
    ∃ asked answer, Roomed cache asked ∧ exchanges = asked ++ [.create batch answer] ∧
      result = answer ∧ ∀ error, answer = .error error → rest.find? batch = none
  spared : ∀ error, result = .error error →
    Spared cache batch rest (exchanges.filterMap Exchange.destroyed?)

variable {capacity batch oldest : Nat} {cache spare : SessionCache ρ} {resource : ρ}

/-- An owner who keeps no account of anything. -/
def carefree : Custody σ ρ Nat where
  accounts _ _ := True
  share _ := 0
  fits _ _ := True
  refuses _ _ := True
  sticks _ := True

theorem carefree_lawful [MonadNote (StateM σ)] (actions : ResourceActions (StateM σ) ρ) :
    carefree.Lawful actions where
  noted _ _ _ := trivial
  created := by
    intro batch state given result after _ _
    cases result with
    | ok resource => exact .inl ⟨resource, rfl, trivial, trivial⟩
    | error error => exact .inr ⟨error, rfl, trivial, trivial⟩
  destroyed _ _ _ := ⟨trivial, fun _ _ => trivial⟩

theorem carefree_guarded (consistent : cache.Consistent) (state : σ) :
    (carefree : Custody σ ρ Nat).Guarded cache state 0 :=
  ⟨consistent, fun _ _ => trivial, trivial⟩

theorem closed_eq (actions : ResourceActions (StateM σ) ρ) (cache : SessionCache ρ) (state : σ) :
    (cache.close actions state).1.2 = { cache with entries := [], order := [] } := by
  simp only [close, bind_apply]
  cases EmbeddingError.join _ <;> rfl

theorem Reached.consistent (reached : Reached capacity cache) :
    cache.Consistent ∧ cache.capacity = capacity := by
  induction reached with
  | opened made =>
      obtain ⟨consistent, -, sized⟩ := consistent_of_new made
      exact ⟨consistent, sized⟩
  | acquired actions batch state _ ih =>
      obtain ⟨guarded, sized, -⟩ :=
        (carefree_guarded ih.1 state).acquire (carefree_lawful actions) rfl
      exact ⟨guarded.consistent, sized.trans ih.2⟩
  | changed batch resource _ ih => exact ⟨ih.1.update batch resource, ih.2⟩
  | closed actions state _ ih =>
      rw [closed_eq]
      exact ⟨ih.1.empty, ih.2⟩

theorem find?_without (nodup : cache.keys.Nodup) (batch other : Nat) :
    (cache.without batch).find? other = if other = batch then none else cache.find? other := by
  change (cache.entries.filter (·.1 != batch)).lookup other = _
  rw [lookup_filter nodup (fun entry => entry.1 != batch)]
  by_cases same : other = batch
  · subst same
    rw [if_pos rfl]
    cases cache.entries.lookup other <;> simp
  · rw [if_neg same]
    change _ = cache.entries.lookup other
    cases cache.entries.lookup other <;> simp [same]

section Minutes

variable [MonadNote (StateM σ)] {actions : ResourceActions (StateM σ) ρ}
variable {minutes middle : Minuted σ ρ}

/-- A full cache asks for its least recently used resource to be destroyed, and that entry is gone
whatever the answer is. -/
theorem makeRoom_full (consistent : cache.Consistent) (full : cache.size = cache.capacity)
    (actions : ResourceActions (StateM σ) ρ) (minutes : Minuted σ ρ) :
    ∃ oldest order resource answer world, cache.order = oldest :: order ∧
      cache.find? oldest = some resource ∧ (cache.without oldest).order = order ∧
      cache.makeRoom (minuted actions) minutes =
        ((answer.mapError (.context s!"failed to evict batch-{oldest} session"),
          cache.without oldest),
        { world, exchanges := minutes.exchanges ++ [.destroy resource answer] }) := by
  have roomy := consistent.roomy
  obtain ⟨oldest, order, resource, ordered, found⟩ := consistent.oldest_exists (by omega)
  let answered := actions.destroy resource
    ((note .debug s!"Evicting session for batch size {oldest}" : StateM σ Unit) minutes.world).2
  refine ⟨oldest, order, resource, answered.1, answered.2, ordered, found,
    filter_order consistent ordered, ?_⟩
  rw [makeRoom, if_pos (Nat.le_of_eq full.symm),
    Custody.evictOldest_eq (minuted actions) consistent ordered found]
  rfl

theorem makeRoom_spare (room : cache.size < cache.capacity)
    (actions : ResourceActions (StateM σ) ρ) (minutes : Minuted σ ρ) :
    cache.makeRoom (minuted actions) minutes = ((.ok (), cache), minutes) := by
  rw [makeRoom, if_neg (Nat.not_le_of_lt room)]
  rfl

/-- Once there is room, everything hangs on whether the resource is created. -/
theorem add_roomed (batch : Nat)
    (roomed : cache.makeRoom (minuted actions) minutes = ((.ok (), spare), middle)) :
    let ended := cache.add (minuted actions) batch minutes
    ∃ answer : Except EmbeddingError ρ,
      ended.2.exchanges = middle.exchanges ++ [.create batch answer] ∧ ended.1.1 = answer ∧
      ∀ error, answer = .error error → ended.1.2 = spare := by
  simp only [add, bind_apply, roomed]
  cases made : actions.create batch middle.world with
  | mk answer world =>
      refine ⟨answer, ?_⟩
      simp only [minuted, made]
      cases answer with
      | error error => exact ⟨rfl, rfl, fun _ _ => rfl⟩
      | ok resource => exact ⟨rfl, rfl, fun error failed => by cases failed⟩

theorem add_stuck {error : EmbeddingError}
    (roomed : cache.makeRoom (minuted actions) minutes = ((.error error, spare), middle)) :
    cache.add (minuted actions) batch minutes = ((.error error, spare), middle) := by
  simp only [add, bind_apply, roomed]
  rfl

theorem spared_without (consistent : cache.Consistent) (full : cache.size = cache.capacity)
    {order : List Nat} (ordered : cache.order = oldest :: order)
    (found : cache.find? oldest = some resource) (left : (cache.without oldest).order = order)
    (absent : cache.find? batch = none) :
    Spared cache batch (cache.without oldest) [resource] := by
  refine .evicted absent full ?_ found (find?_without consistent.keysNodup oldest) rfl
  rw [batchSizes, batchSizes, ordered, left]

/-- With room made, only creating can fail. -/
theorem roomed_sparing {world : σ} (nonzero : batch ≠ 0) (absent : cache.find? batch = none)
    (roomed : cache.makeRoom (minuted actions) { world } = ((.ok (), spare), middle))
    (absentSpare : spare.find? batch = none)
    (spared : Spared cache batch spare (middle.exchanges.filterMap Exchange.destroyed?))
    (room : Roomed cache middle.exchanges) :
    let ended := cache.add (minuted actions) batch { world }
    Sparing cache batch ended.1.1 ended.1.2 ended.2.exchanges := by
  obtain ⟨answer, exchanges, result, rest⟩ := add_roomed batch roomed
  intro ended
  constructor
  case zero => exact fun same => absurd same nonzero
  case cached => exact fun resource known => by simp [absent] at known
  case full =>
    intro _ _ same
    generalize asked : middle.exchanges = first at room
    cases room with
    | spare room => exact absurd same (Nat.ne_of_lt room)
    | made _ ordered found =>
        refine ⟨_, _, _, .ok (), ordered, found, ?_, nofun⟩
        rw [exchanges, asked]
        rfl
  case created =>
    refine fun _ _ => .inr ⟨_, answer, room, exchanges, result, fun error failed => ?_⟩
    rw [rest error failed, absentSpare]
  case spared =>
    intro error failed
    rw [rest error (result.symm.trans failed), exchanges, List.filterMap_append]
    exact (List.append_nil _).symm ▸ spared

theorem add_sparing (consistent : cache.Consistent) (nonzero : batch ≠ 0)
    (absent : cache.find? batch = none) (actions : ResourceActions (StateM σ) ρ) (world : σ) :
    let ended := cache.add (minuted actions) batch { world }
    Sparing cache batch ended.1.1 ended.1.2 ended.2.exchanges := by
  by_cases full : cache.size = cache.capacity
  · obtain ⟨oldest, order, resource, answer, evicted, ordered, found, left, roomed⟩ :=
      makeRoom_full consistent full actions { world }
    have gone := find?_without consistent.keysNodup oldest
    have absentRest : (cache.without oldest).find? batch = none := by
      rw [gone, absent, ite_self]
    have spared := spared_without consistent full ordered found left absent
    cases answer with
    | ok _ =>
        exact roomed_sparing nonzero absent roomed absentRest spared (.made full ordered found)
    | error error =>
        rw [add_stuck roomed]
        constructor
        case zero => exact fun same => absurd same nonzero
        case cached => exact fun resource known => by simp [absent] at known
        case full =>
          refine fun _ _ _ => ⟨oldest, order, resource, .error error, ordered, found, rfl, ?_⟩
          rintro _ ⟨⟩
          exact ⟨rfl, by rw [gone, if_pos rfl], absentRest, rfl⟩
        case created => exact fun _ _ => .inl ⟨full, resource, error, rfl⟩
        case spared => exact fun _ _ => spared
  · have room : cache.size < cache.capacity := Nat.lt_of_le_of_ne consistent.bounded full
    exact roomed_sparing nonzero absent (makeRoom_spare room actions { world }) absent
      (.whole rfl rfl) (.spare room)

theorem acquire_sparing (consistent : cache.Consistent) (batch : Nat)
    (actions : ResourceActions (StateM σ) ρ) (world : σ) :
    let ended := cache.acquire (minuted actions) batch { world }
    Sparing cache batch ended.1.1 ended.1.2 ended.2.exchanges := by
  unfold acquire
  by_cases zero : batch = 0
  · rw [if_pos zero]
    have absent : cache.find? batch = none := by
      rw [zero]
      exact find?_eq_none.mpr consistent.positive
    constructor
    case zero => exact fun _ => ⟨rfl, rfl, rfl⟩
    case cached => exact fun resource known => by simp [absent] at known
    case full => exact fun nonzero => absurd zero nonzero
    case created => exact fun nonzero => absurd zero nonzero
    case spared => exact fun _ _ => .whole rfl rfl
  · rw [if_neg zero]
    cases found : cache.find? batch with
    | none => exact add_sparing consistent zero found actions world
    | some resource =>
        constructor
        case zero => exact fun same => absurd same zero
        case cached =>
          intro other same
          rw [found] at same
          cases same
          exact ⟨rfl, rfl, rfl⟩
        case full => exact fun _ absent => by simp [found] at absent
        case created => exact fun _ absent => by simp [found] at absent
        case spared => exact nofun

end Minutes

/-- Whatever a cache has been through, and whatever creating and destroying do: acquiring from it
fails without harm to what is still cached. -/
theorem failed_acquire_spares [MonadNote (StateM σ)] (reached : Reached capacity cache)
    (actions : ResourceActions (StateM σ) ρ) (batch : Nat) (world : σ) :
    let ((result, rest), minutes) := cache.acquire (minuted actions) batch { world }
    Sparing cache batch result rest minutes.exchanges :=
  acquire_sparing reached.consistent.1 batch actions world

open Scripted in
/-- A cache of two: after 1 was used again, 2 makes room for 3 and fails to be destroyed.  Nothing
is created for 3, and 1 stays. -/
theorem stuck_entry_spares :
    let cache : SessionCache Resource :=
      { capacity := 2, entries := [(1, ⟨1, none⟩), (2, ⟨2, some .closed⟩)], order := [2, 1] }
    let ((result, rest), minutes) :=
      cache.acquire (minuted (Resource.actions none none)) 3 { world := {} }
    Reached 2 cache ∧ Sparing cache 3 result rest minutes.exchanges ∧
      result = .error (.context "failed to evict batch-2 session" .closed) ∧
      minutes.world.created = [] ∧ minutes.world.destroyed = [2] ∧
      rest.batchSizes = [1] ∧ rest.find? 1 = some ⟨1, none⟩ := by
  intro cache
  have opened : Reached 2 ({ capacity := 2, entries := [], order := [] } : SessionCache Resource) :=
    .opened rfl
  have reached : Reached 2 cache :=
    ((opened.acquired (Resource.actions none none) 1 ({} : ResourceTrace)).acquired
      (Resource.actions none (some .closed)) 2 ({} : ResourceTrace)).acquired
      (Resource.actions none none) 1 ({} : ResourceTrace)
  have spares := failed_acquire_spares reached (Resource.actions none none) 3 ({} : ResourceTrace)
  exact ⟨reached, spares, rfl, rfl, rfl, rfl, rfl⟩

end TextVectors.SessionCache

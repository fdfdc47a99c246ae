import TextVectors.Proofs.Entries
import TextVectors.SessionCache

namespace TextVectors.SessionCache

/-! The two records of a cache agree.

The entries and the order of use are updated one after the other.  Between two
requests they mention the same batch sizes, each of them once.
-/

variable {ρ : Type} {cache : SessionCache ρ} {batch oldest : Nat} {resource : ρ}
variable {order : List Nat}

/-- The batch sizes that have an entry. -/
def keys (cache : SessionCache ρ) : List Nat :=
  cache.entries.map (·.1)

structure Consistent (cache : SessionCache ρ) : Prop where
  keysNodup : cache.keys.Nodup
  orderNodup : cache.order.Nodup
  mem_order : ∀ batch, batch ∈ cache.order ↔ batch ∈ cache.keys
  positive : 0 ∉ cache.keys
  bounded : cache.size ≤ cache.capacity
  roomy : 0 < cache.capacity

theorem size_eq_keys (cache : SessionCache ρ) : cache.size = cache.keys.length := by
  simp [size, keys]

theorem mem_keys_of_entry (member : (batch, resource) ∈ cache.entries) : batch ∈ cache.keys :=
  List.mem_map.mpr ⟨(batch, resource), member, rfl⟩

theorem find?_eq_none : cache.find? batch = none ↔ batch ∉ cache.keys :=
  lookup_eq_none

theorem find?_of_mem_keys (member : batch ∈ cache.keys) :
    ∃ resource, cache.find? batch = some resource := by
  cases found : cache.find? batch with
  | none => exact absurd member (find?_eq_none.mp found)
  | some resource => exact ⟨resource, rfl⟩

theorem mem_entries_of_find? (found : cache.find? batch = some resource) :
    (batch, resource) ∈ cache.entries := by
  obtain ⟨front, back, split, -⟩ := List.lookup_eq_some_iff.mp found
  rw [split]
  simp

theorem entries_perm (nodup : cache.keys.Nodup) (found : cache.find? batch = some resource) :
    cache.entries.Perm ((batch, resource) :: cache.entries.filter (·.1 != batch)) :=
  perm_of_lookup nodup found

theorem consistent_of_new {capacity : Nat} (made : new capacity = .ok cache) :
    cache.Consistent ∧ cache.entries = [] ∧ cache.capacity = capacity := by
  unfold new at made
  split at made
  · contradiction
  · rename_i positive
    cases made
    exact ⟨⟨by simp [keys], by simp, by simp [keys], by simp [keys], by simp [size],
      Nat.pos_of_ne_zero positive⟩, rfl, rfl⟩

/-- The cache that is left when an entry is taken out. -/
def without (cache : SessionCache ρ) (batch : Nat) : SessionCache ρ :=
  { cache with
    entries := cache.entries.filter (·.1 != batch)
    order := cache.order.filter (· != batch) }

theorem keys_without (cache : SessionCache ρ) (batch : Nat) :
    (cache.without batch).keys = cache.keys.filter (· != batch) := by
  simp only [keys, without, List.filter_map]
  rfl

theorem mem_entries_of_without {entry : Nat × ρ}
    (member : entry ∈ (cache.without batch).entries) : entry ∈ cache.entries :=
  List.mem_of_mem_filter member

theorem size_without (nodup : cache.keys.Nodup) (found : cache.find? batch = some resource) :
    (cache.without batch).size + 1 = cache.size := by
  have same := (entries_perm nodup found).length_eq
  simpa [size, without] using same.symm

theorem Consistent.without (consistent : cache.Consistent) (batch : Nat) :
    (cache.without batch).Consistent where
  keysNodup := by
    rw [keys_without]
    exact consistent.keysNodup.filter _
  orderNodup := consistent.orderNodup.filter _
  mem_order other := by
    rw [keys_without, SessionCache.without, List.mem_filter, List.mem_filter,
      consistent.mem_order]
  positive := by
    rw [keys_without]
    exact fun member => consistent.positive (List.mem_of_mem_filter member)
  bounded := Nat.le_trans (List.length_filter_le _ _) consistent.bounded
  roomy := consistent.roomy

theorem filter_order (consistent : cache.Consistent) (oldestFirst : cache.order = oldest :: order) :
    cache.order.filter (· != oldest) = order := by
  have nodup := consistent.orderNodup
  rw [oldestFirst, List.nodup_cons] at nodup
  rw [oldestFirst, List.filter_cons]
  simp only [bne_self_eq_false, Bool.false_eq_true, if_false]
  rw [List.filter_eq_self]
  intro other member
  simp only [bne_iff_ne, ne_eq]
  intro same
  subst same
  exact nodup.1 member

theorem Consistent.length_order (consistent : cache.Consistent) :
    cache.order.length = cache.size := by
  have same := (List.perm_ext_iff_of_nodup consistent.orderNodup consistent.keysNodup).mpr
    consistent.mem_order
  rw [same.length_eq, size_eq_keys]

/-- A cache with entries has an oldest one. -/
theorem Consistent.oldest_exists (consistent : cache.Consistent) (full : 0 < cache.size) :
    ∃ oldest order resource, cache.order = oldest :: order ∧
      cache.find? oldest = some resource := by
  rw [size_eq_keys] at full
  obtain ⟨batch, member⟩ := List.exists_mem_of_length_pos full
  have used := (consistent.mem_order batch).mpr member
  cases ordered : cache.order with
  | nil => simp [ordered] at used
  | cons oldest order =>
      have listed : oldest ∈ cache.keys := by
        rw [← consistent.mem_order, ordered]
        simp
      obtain ⟨resource, found⟩ := find?_of_mem_keys listed
      exact ⟨oldest, order, resource, rfl, found⟩

theorem mem_touch {other : Nat} :
    other ∈ (cache.touch batch).order ↔ other ∈ cache.order ∨ other = batch := by
  by_cases same : other = batch <;> simp [touch, same]

theorem touch_last (cache : SessionCache ρ) (batch : Nat) :
    (cache.touch batch).order.getLast? = some batch := by
  simp [touch]

theorem touch_nodup (nodup : cache.order.Nodup) : (cache.touch batch).order.Nodup := by
  rw [touch, List.nodup_append]
  refine ⟨nodup.filter _, by simp, ?_⟩
  intro other member last listed same
  rw [List.mem_singleton] at listed
  simp [same, listed] at member

theorem Consistent.touch (consistent : cache.Consistent) (member : batch ∈ cache.keys) :
    (cache.touch batch).Consistent where
  keysNodup := consistent.keysNodup
  orderNodup := touch_nodup consistent.orderNodup
  mem_order other := by
    rw [mem_touch, consistent.mem_order]
    constructor
    · rintro (known | rfl)
      · exact known
      · exact member
    · exact Or.inl
  positive := consistent.positive
  bounded := consistent.bounded
  roomy := consistent.roomy

theorem Consistent.insert_touch (consistent : cache.Consistent) (absent : batch ∉ cache.keys)
    (nonzero : batch ≠ 0) (room : cache.size < cache.capacity) (resource : ρ) :
    ((cache.insert batch resource).touch batch).Consistent where
  keysNodup := by
    simp only [keys, SessionCache.touch, SessionCache.insert, List.map_append, List.map_cons,
      List.map_nil]
    rw [List.nodup_append]
    refine ⟨consistent.keysNodup, by simp, ?_⟩
    intro other member last listed same
    rw [List.mem_singleton] at listed
    rw [same, listed] at member
    exact absent member
  orderNodup := touch_nodup consistent.orderNodup
  mem_order other := by
    rw [mem_touch]
    simp only [keys, SessionCache.touch, SessionCache.insert, List.map_append, List.map_cons,
      List.map_nil, List.mem_append, List.mem_singleton]
    exact or_congr (consistent.mem_order other) Iff.rfl
  positive := by
    simp only [keys, SessionCache.touch, SessionCache.insert, List.map_append, List.map_cons,
      List.map_nil, List.mem_append, List.mem_singleton, not_or]
    exact ⟨consistent.positive, fun same => nonzero same.symm⟩
  bounded := by
    simp only [size, SessionCache.touch, SessionCache.insert, List.length_append,
      List.length_singleton]
    exact room
  roomy := consistent.roomy

theorem find?_insert (absent : batch ∉ cache.keys) (resource : ρ) :
    (cache.insert batch resource).find? batch = some resource := by
  have missing : cache.entries.lookup batch = none := find?_eq_none.mpr absent
  simp [find?, insert, List.lookup_append, missing]

theorem keys_update (cache : SessionCache ρ) (batch : Nat) (resource : ρ) :
    (cache.update batch resource).keys = cache.keys := by
  simp only [keys, update, List.map_map]
  apply List.map_congr_left
  intro entry _
  simp only [Function.comp_apply]
  split
  · rename_i same
    exact same.symm
  · rfl

theorem Consistent.update (consistent : cache.Consistent) (batch : Nat) (resource : ρ) :
    (cache.update batch resource).Consistent where
  keysNodup := by
    rw [keys_update]
    exact consistent.keysNodup
  orderNodup := consistent.orderNodup
  mem_order other := by
    rw [keys_update]
    exact consistent.mem_order other
  positive := by
    rw [keys_update]
    exact consistent.positive
  bounded := by
    rw [size_eq_keys, keys_update, ← size_eq_keys]
    exact consistent.bounded
  roomy := consistent.roomy

theorem without_update (cache : SessionCache ρ) (batch : Nat) (resource : ρ) :
    (cache.update batch resource).entries.filter (·.1 != batch) =
      cache.entries.filter (·.1 != batch) := by
  simp only [update]
  induction cache.entries with
  | nil => rfl
  | cons entry rest ih =>
      by_cases same : entry.1 = batch
      · simp [same, ih]
      · simp [same, ih]

theorem find?_update (member : batch ∈ cache.keys) (resource : ρ) :
    (cache.update batch resource).find? batch = some resource := by
  have listed : batch ∈ (cache.update batch resource).keys := by
    rw [keys_update]
    exact member
  obtain ⟨stored, found⟩ := find?_of_mem_keys listed
  obtain ⟨entry, -, placed⟩ := List.mem_map.mp (mem_entries_of_find? found)
  split at placed
  · rw [found]
    exact congrArg some (Prod.mk.inj placed).2.symm
  · rename_i different
    exact absurd (congrArg Prod.fst placed) different

theorem Consistent.empty (consistent : cache.Consistent) :
    ({ cache with entries := [], order := [] } : SessionCache ρ).Consistent where
  keysNodup := by simp [keys]
  orderNodup := by simp
  mem_order := by simp [keys]
  positive := by simp [keys]
  bounded := by simp [size]
  roomy := consistent.roomy

end TextVectors.SessionCache

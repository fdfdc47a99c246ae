import Mathlib.Algebra.BigOperators.Group.List.Basic
import TextVectors.Proofs.Cache.Consistency
import TextVectors.Proofs.Execution

namespace TextVectors

/-! Accounting for the resources of a cache.

A cache calls operations of its owner, who knows what there is to keep account of.
Whatever that is, every resource has a share in it; creating a resource adds its
share, and destroying it takes the share away.  The cache then always answers for
the shares of its entries, no more and no less.
-/

/-- How an owner accounts for resources. -/
structure Custody (σ ρ M : Type) where
  /-- What a state vouches for in all. -/
  accounts : σ → M → Prop
  share : ρ → M
  /-- Whether a resource suits a batch size. -/
  fits : Nat → ρ → Prop
  /-- The errors with which no resource is created. -/
  refuses : Nat → EmbeddingError → Prop
  /-- The errors that are reported when a resource is destroyed. -/
  sticks : EmbeddingError → Prop

namespace Custody

open SessionCache

variable {σ ρ M : Type} [AddCommMonoid M] {custody : Custody σ ρ M}
variable {cache rest : SessionCache ρ} {batch : Nat} {resource changed : ρ}
variable {state after : σ} {given : M}

/-- The shares of all entries. -/
def total (custody : Custody σ ρ M) (cache : SessionCache ρ) : M :=
  (cache.entries.map fun entry => custody.share entry.2).sum

/-- A cache whose entries suit their batch sizes and are vouched for, beside what is given to
others. -/
structure Guarded (custody : Custody σ ρ M) (cache : SessionCache ρ) (state : σ) (given : M) :
    Prop where
  consistent : cache.Consistent
  suited : ∀ entry ∈ cache.entries, custody.fits entry.1 entry.2
  vouched : custody.accounts state (custody.total cache + given)

theorem total_of_find? (nodup : cache.keys.Nodup) (found : cache.find? batch = some resource) :
    custody.total cache = custody.share resource + custody.total (cache.without batch) := by
  have shares := (entries_perm nodup found).map fun entry => custody.share entry.2
  rw [total, shares.sum_eq, List.map_cons, List.sum_cons]
  rfl

theorem total_insert (custody : Custody σ ρ M) (cache : SessionCache ρ) (batch : Nat)
    (resource : ρ) :
    custody.total ((cache.insert batch resource).touch batch) =
      custody.share resource + custody.total cache := by
  simp only [total, SessionCache.touch, SessionCache.insert, List.map_append, List.map_cons,
    List.map_nil, List.sum_append, List.sum_singleton]
  rw [add_comm]

theorem total_update (nodup : cache.keys.Nodup) (found : cache.find? batch = some resource)
    (same : custody.share changed = custody.share resource) :
    custody.total (cache.update batch changed) = custody.total cache := by
  have nodupAfter : (cache.update batch changed).keys.Nodup := by
    rw [keys_update]
    exact nodup
  have member := mem_keys_of_entry (mem_entries_of_find? found)
  rw [total_of_find? nodup found, total_of_find? nodupAfter (find?_update member changed), same]
  simp only [total, without, without_update]

theorem guarded_of_new {capacity : Nat} (made : SessionCache.new capacity = .ok cache)
    (vouched : custody.accounts state given) : custody.Guarded cache state given := by
  obtain ⟨consistent, empty, -⟩ := consistent_of_new made
  refine ⟨consistent, by simp [empty], ?_⟩
  simpa [total, empty] using vouched

namespace Guarded

theorem touch (guarded : custody.Guarded cache state given) (member : batch ∈ cache.keys) :
    custody.Guarded (cache.touch batch) state given :=
  ⟨guarded.consistent.touch member, guarded.suited, guarded.vouched⟩

theorem suited_of_find? (guarded : custody.Guarded cache state given)
    (found : cache.find? batch = some resource) : custody.fits batch resource :=
  guarded.suited _ (mem_entries_of_find? found)

/-- A resource can be replaced by one with the same share. -/
theorem update (guarded : custody.Guarded cache state given)
    (found : cache.find? batch = some resource) (suited : custody.fits batch changed)
    (same : custody.share changed = custody.share resource) :
    custody.Guarded (cache.update batch changed) state given where
  consistent := guarded.consistent.update batch changed
  suited := by
    intro entry member
    obtain ⟨former, listed, placed⟩ := List.mem_map.mp member
    split at placed
    · rw [← placed]
      exact suited
    · rw [← placed]
      exact guarded.suited former listed
  vouched := by
    rw [total_update guarded.consistent.keysNodup found same]
    exact guarded.vouched

theorem insert_touch (guarded : custody.Guarded cache state given) (absent : batch ∉ cache.keys)
    (nonzero : batch ≠ 0) (room : cache.size < cache.capacity)
    (suited : custody.fits batch resource)
    (vouched : custody.accounts after (custody.share resource + (custody.total cache + given))) :
    custody.Guarded ((cache.insert batch resource).touch batch) after given where
  consistent := guarded.consistent.insert_touch absent nonzero room resource
  suited := by
    intro entry member
    rcases List.mem_append.mp member with former | last
    · exact guarded.suited entry former
    · rw [List.mem_singleton.mp last]
      exact suited
  vouched := by
    rw [total_insert, add_assoc]
    exact vouched

end Guarded

variable [MonadNote (StateM σ)] {actions : ResourceActions (StateM σ) ρ}

/-- The operations of an owner keep the accounts. -/
structure Lawful (custody : Custody σ ρ M) (actions : ResourceActions (StateM σ) ρ) : Prop where
  noted : ∀ {state given} severity text, custody.accounts state given →
    custody.accounts ((note severity text : StateM σ Unit) state).2 given
  created : ∀ {batch state given result after}, custody.accounts state given →
    actions.create batch state = (result, after) →
    (∃ resource, result = .ok resource ∧ custody.fits batch resource ∧
      custody.accounts after (custody.share resource + given)) ∨
    (∃ error, result = .error error ∧ custody.refuses batch error ∧ custody.accounts after given)
  destroyed : ∀ {batch resource state given result after}, custody.fits batch resource →
    custody.accounts state (custody.share resource + given) →
    actions.destroy resource state = (result, after) →
    custody.accounts after given ∧ ∀ error, result = .error error → custody.sticks error

/-- Of a cache in use, the entry that was not used for the longest time is destroyed. -/
theorem evictOldest_eq {oldest : Nat} {order : List Nat} (actions : ResourceActions (StateM σ) ρ)
    (consistent : cache.Consistent) (ordered : cache.order = oldest :: order)
    (found : cache.find? oldest = some resource) :
    cache.evictOldest actions state =
      let noted := ((note .debug s!"Evicting session for batch size {oldest}" : StateM σ Unit)
        state).2
      let outcome := actions.destroy resource noted
      ((outcome.1.mapError (.context s!"failed to evict batch-{oldest} session"),
        cache.without oldest), outcome.2) := by
  have foundRest : ({ cache with order } : SessionCache ρ).find? oldest = some resource := found
  have remaining : cache.without oldest =
      { cache with entries := cache.entries.filter (·.1 != oldest), order } := by
    rw [without, filter_order consistent ordered]
  simp only [evictOldest, ordered, foundRest, remaining]
  rfl

namespace Guarded

theorem note (guarded : custody.Guarded cache state given) (lawful : custody.Lawful actions)
    (severity : Severity) (text : String) :
    custody.Guarded cache ((MonadNote.note severity text : StateM σ Unit) state).2 given :=
  ⟨guarded.consistent, guarded.suited, lawful.noted severity text guarded.vouched⟩

/-- Making room fails only where destroying a resource does. -/
theorem evictOldest {result : Except EmbeddingError Unit}
    (guarded : custody.Guarded cache state given) (lawful : custody.Lawful actions)
    (full : 0 < cache.size)
    (ran : cache.evictOldest actions state = ((result, rest), after)) :
    custody.Guarded rest after given ∧ rest.size < cache.size ∧ rest.capacity = cache.capacity ∧
      (∀ batch ∈ rest.keys, batch ∈ cache.keys) ∧
      ∀ error, result = .error error → ∃ failure, custody.sticks failure := by
  obtain ⟨oldest, order, resource, ordered, found⟩ := guarded.consistent.oldest_exists full
  have nodup := guarded.consistent.keysNodup
  rw [evictOldest_eq actions guarded.consistent ordered found] at ran
  cases ran
  have shares := (guarded.note lawful .debug s!"Evicting session for batch size {oldest}").vouched
  rw [total_of_find? nodup found, add_assoc] at shares
  obtain ⟨vouched, sticky⟩ := lawful.destroyed (guarded.suited_of_find? found) shares rfl
  refine ⟨⟨guarded.consistent.without oldest, ?_, vouched⟩, ?_, rfl, ?_, ?_⟩
  · exact fun entry member => guarded.suited entry (mem_entries_of_without member)
  · have fewer := size_without nodup found
    omega
  · intro batch member
    rw [keys_without] at member
    exact List.mem_of_mem_filter member
  · intro error failed
    obtain ⟨failure, failing, -⟩ := error_of_mapError failed
    exact ⟨failure, sticky failure failing⟩

theorem makeRoom {result : Except EmbeddingError Unit}
    (guarded : custody.Guarded cache state given) (lawful : custody.Lawful actions)
    (ran : cache.makeRoom actions state = ((result, rest), after)) :
    custody.Guarded rest after given ∧ rest.capacity = cache.capacity ∧
      (∀ batch ∈ rest.keys, batch ∈ cache.keys) ∧
      (result = .ok () → rest.size < rest.capacity) ∧
      ∀ error, result = .error error → ∃ failure, custody.sticks failure := by
  have bounded := guarded.consistent.bounded
  have roomy := guarded.consistent.roomy
  unfold SessionCache.makeRoom at ran
  split at ran
  · obtain ⟨guardedRest, fewer, capacity, known, sticky⟩ :=
      guarded.evictOldest lawful (by omega) ran
    exact ⟨guardedRest, capacity, known, fun _ => by omega, sticky⟩
  · cases ran
    exact ⟨guarded, rfl, fun _ member => member, fun _ => by omega, by simp⟩

/-- Adding a resource leaves it in the cache, the last one used. -/
theorem add {result : Except EmbeddingError ρ} (guarded : custody.Guarded cache state given)
    (lawful : custody.Lawful actions) (absent : batch ∉ cache.keys) (nonzero : batch ≠ 0)
    (ran : cache.add actions batch state = ((result, rest), after)) :
    custody.Guarded rest after given ∧ rest.capacity = cache.capacity ∧
      (∀ resource, result = .ok resource →
        rest.find? batch = some resource ∧ rest.order.getLast? = some batch) ∧
      ∀ error, result = .error error →
        custody.refuses batch error ∨ ∃ failure, custody.sticks failure := by
  simp only [SessionCache.add, bind_apply] at ran
  cases roomed : cache.makeRoom actions state with
  | mk outcome middle =>
      obtain ⟨cleared, spare⟩ := outcome
      obtain ⟨guardedSpare, capacity, known, room, sticky⟩ := guarded.makeRoom lawful roomed
      rw [roomed] at ran
      cases cleared with
      | error error =>
          cases ran
          exact ⟨guardedSpare, capacity, by simp,
            fun error failed => .inr (sticky error (by simpa using failed))⟩
      | ok _ =>
          have room := room rfl
          cases made : actions.create batch middle with
          | mk outcome last =>
              simp only [bind_apply, made] at ran
              rcases lawful.created guardedSpare.vouched made with
                ⟨resource, rfl, suited, vouched⟩ | ⟨error, rfl, refused, vouched⟩
              · cases ran
                have absentSpare : batch ∉ spare.keys := fun member => absent (known batch member)
                have inserted := guardedSpare.insert_touch absentSpare nonzero room suited vouched
                refine ⟨inserted.note lawful .debug s!"Cached session for batch size {batch}",
                  capacity, ?_, by simp⟩
                intro stored same
                cases same
                exact ⟨find?_insert absentSpare resource, touch_last _ batch⟩
              · cases ran
                refine ⟨⟨guardedSpare.consistent, guardedSpare.suited, vouched⟩, capacity,
                  by simp, ?_⟩
                intro other same
                cases same
                exact .inl refused

/-- Acquiring fails on batch size zero, or where creating or destroying a resource does. -/
theorem acquire {result : Except EmbeddingError ρ} (guarded : custody.Guarded cache state given)
    (lawful : custody.Lawful actions)
    (ran : cache.acquire actions batch state = ((result, rest), after)) :
    custody.Guarded rest after given ∧ rest.capacity = cache.capacity ∧
      (∀ resource, result = .ok resource →
        rest.find? batch = some resource ∧ rest.order.getLast? = some batch) ∧
      ∀ error, result = .error error →
        batch = 0 ∨ custody.refuses batch error ∨ ∃ failure, custody.sticks failure := by
  unfold SessionCache.acquire at ran
  by_cases zero : batch = 0
  · rw [if_pos zero] at ran
    cases ran
    exact ⟨guarded, rfl, by simp, fun _ _ => .inl zero⟩
  · rw [if_neg zero] at ran
    cases found : cache.find? batch with
    | some resource =>
        rw [found] at ran
        cases ran
        have member := mem_keys_of_entry (mem_entries_of_find? found)
        refine ⟨guarded.touch member, rfl, ?_, by simp⟩
        intro stored same
        cases same
        exact ⟨found, touch_last cache batch⟩
    | none =>
        rw [found] at ran
        obtain ⟨guardedRest, capacity, stored, failed⟩ :=
          guarded.add lawful (find?_eq_none.mp found) zero ran
        exact ⟨guardedRest, capacity, stored, fun error same => .inr (failed error same)⟩

/-- Destroying entries one by one takes all their shares away. -/
theorem destroyAll {entries : List (Nat × ρ)} {failures : List EmbeddingError}
    (lawful : custody.Lawful actions)
    (suited : ∀ entry ∈ entries, custody.fits entry.1 entry.2)
    (vouched : custody.accounts state
      ((entries.map fun entry => custody.share entry.2).sum + given))
    (ran : SessionCache.destroyAll actions entries state = (failures, after)) :
    custody.accounts after given := by
  induction entries generalizing state failures after with
  | nil =>
      cases ran
      simpa using vouched
  | cons entry rest ih =>
      obtain ⟨batch, resource⟩ := entry
      cases gone : actions.destroy resource state with
      | mk outcome middle =>
          cases others : SessionCache.destroyAll actions rest middle with
          | mk further last =>
              rw [List.map_cons, List.sum_cons, add_assoc] at vouched
              have fewer := (lawful.destroyed (suited _ List.mem_cons_self) vouched gone).1
              have settled := ih (fun entry member => suited entry (List.mem_cons_of_mem _ member))
                fewer others
              simp only [SessionCache.destroyAll, bind_apply, gone, others] at ran
              cases outcome <;> cases ran <;> exact settled

theorem close {result : Except EmbeddingError Unit} (guarded : custody.Guarded cache state given)
    (lawful : custody.Lawful actions)
    (ran : cache.close actions state = ((result, rest), after)) :
    rest = { cache with entries := [], order := [] } ∧ custody.Guarded rest after given := by
  cases gone : SessionCache.destroyAll actions cache.entries state with
  | mk failures last =>
      have vouched := destroyAll lawful guarded.suited guarded.vouched gone
      simp only [SessionCache.close, bind_apply, gone] at ran
      have emptied : rest = { cache with entries := [], order := [] } ∧ after = last := by
        cases joined : EmbeddingError.join failures <;> rw [joined] at ran <;> cases ran <;>
          exact ⟨rfl, rfl⟩
      obtain ⟨rfl, rfl⟩ := emptied
      exact ⟨rfl, guarded.consistent.empty, by simp, by simpa [total] using vouched⟩

/-- Once a cache is gone nobody is left with its shares. -/
theorem discard (guarded : custody.Guarded cache state given) (lawful : custody.Lawful actions) :
    custody.accounts (cache.discard actions state).2 given := by
  unfold SessionCache.discard
  cases empty : cache.isEmpty with
  | true =>
      have cleared : cache.entries = [] := by simpa [isEmpty] using empty
      have vouched : custody.accounts state given := by
        simpa [total, cleared] using guarded.vouched
      exact vouched
  | false =>
      cases closed : cache.close actions state with
      | mk outcome last =>
          obtain ⟨result, rest⟩ := outcome
          obtain ⟨rfl, guardedRest⟩ := guarded.close lawful closed
          have vouched : custody.accounts last given := by
            simpa [total] using guardedRest.vouched
          simp only [Bool.not_false, if_true, bind_apply, closed]
          cases result with
          | ok _ => exact vouched
          | error error => exact lawful.noted _ _ vouched

end Guarded

end Custody

end TextVectors

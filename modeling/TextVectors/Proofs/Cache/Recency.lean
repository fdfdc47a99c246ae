import Mathlib.Data.List.Dedup
import Mathlib.Data.List.DropRight
import Mathlib.Data.List.Infix
import TextVectors.Proofs.Cache.Custody
import TextVectors.Proofs.Execution
import TextVectors.Scripted.Resource

namespace TextVectors.SessionCache

/-! A cache holds the batch sizes that were used last.

What is cached, what is created and what is destroyed can all be read off the batch sizes that
were acquired so far, as long as creating and destroying succeed.
-/

variable {σ ρ : Type}

section History

variable {capacity batch oldest : Nat} {past front back rest : List Nat}

/-- The batch sizes that were acquired, in the order in which they were acquired last. -/
def lastUses (past : List Nat) : List Nat :=
  (past.filter (· != 0)).dedup

/-- The batch sizes used last, oldest first. -/
def recent (capacity : Nat) (past : List Nat) : List Nat :=
  (lastUses past).rtake capacity

theorem dedup_concat (past : List Nat) (batch : Nat) :
    (past ++ [batch]).dedup = past.dedup.filter (· != batch) ++ [batch] := by
  induction past with
  | nil => rfl
  | cons first past ih =>
      by_cases again : first ∈ past
      · rw [List.cons_append, List.dedup_cons_of_mem (by simp [again]), ih,
          List.dedup_cons_of_mem again]
      · by_cases same : first = batch
        · rw [List.cons_append, List.dedup_cons_of_mem (by simp [same]), ih,
            List.dedup_cons_of_notMem again]
          simp [same]
        · rw [List.cons_append, List.dedup_cons_of_notMem (by simp [again, same]), ih,
            List.dedup_cons_of_notMem again]
          simp [same]

theorem lastUses_zero (past : List Nat) : lastUses (past ++ [0]) = lastUses past := by
  simp [lastUses]

theorem lastUses_concat (past : List Nat) (nonzero : batch ≠ 0) :
    lastUses (past ++ [batch]) = (lastUses past).filter (· != batch) ++ [batch] := by
  simp [lastUses, List.filter_append, nonzero, dedup_concat]

theorem recent_split (capacity : Nat) (past : List Nat) :
    ∃ older, lastUses past = older ++ recent capacity past ∧
      ((recent capacity past).length = capacity ∨
        older = [] ∧ (recent capacity past).length < capacity) := by
  refine ⟨(lastUses past).take ((lastUses past).length - capacity),
    (List.take_append_drop _ _).symm, ?_⟩
  simp only [recent, List.rtake, List.length_drop]
  by_cases enough : capacity ≤ (lastUses past).length
  · left
    omega
  · right
    rw [show (lastUses past).length - capacity = 0 by omega]
    exact ⟨rfl, by omega⟩

theorem recent_of_split (front : List Nat) (split : lastUses past = front ++ back)
    (sized : back.length = capacity ∨ front = [] ∧ back.length ≤ capacity) :
    recent capacity past = back := by
  rw [recent, List.rtake, split]
  rcases sized with exact_ | ⟨rfl, within⟩
  · rw [List.length_append, exact_, Nat.add_sub_cancel, List.drop_left]
  · rw [List.nil_append, Nat.sub_eq_zero_of_le within, List.drop_zero]

theorem recent_nodup (capacity : Nat) (past : List Nat) : (recent capacity past).Nodup :=
  (List.nodup_dedup _).sublist (List.drop_sublist _ _)

theorem length_without {batches : List Nat} (nodup : batches.Nodup) (member : batch ∈ batches) :
    (batches.filter (· != batch)).length + 1 = batches.length := by
  have positive := List.length_pos_of_mem member
  rw [← nodup.erase_eq_filter, List.length_erase_of_mem member]
  omega

theorem filter_absent {batches : List Nat} (absent : batch ∉ batches) :
    batches.filter (· != batch) = batches := by
  rw [List.filter_eq_self]
  intro other member
  simp only [bne_iff_ne, ne_eq]
  rintro rfl
  exact absent member

theorem recent_zero (capacity : Nat) (past : List Nat) :
    recent capacity (past ++ [0]) = recent capacity past := by
  rw [recent, lastUses_zero, recent]

theorem recent_again (member : batch ∈ recent capacity past) (nonzero : batch ≠ 0) :
    recent capacity (past ++ [batch]) = (recent capacity past).filter (· != batch) ++ [batch] := by
  obtain ⟨older, split, sized⟩ := recent_split capacity past
  have fewer := length_without (recent_nodup capacity past) member
  apply recent_of_split (older.filter (· != batch))
  · rw [lastUses_concat past nonzero, split, List.filter_append, List.append_assoc]
  · rw [List.length_append, List.length_singleton]
    rcases sized with full | ⟨rfl, room⟩
    · exact .inl (by omega)
    · exact .inr ⟨rfl, by omega⟩

theorem recent_room (absent : batch ∉ recent capacity past) (nonzero : batch ≠ 0)
    (room : (recent capacity past).length < capacity) :
    recent capacity (past ++ [batch]) = recent capacity past ++ [batch] := by
  obtain ⟨older, split, full | ⟨rfl, -⟩⟩ := recent_split capacity past
  · omega
  · apply recent_of_split []
    · rw [lastUses_concat past nonzero, split, List.nil_append, filter_absent absent,
        List.nil_append]
    · rw [List.length_append, List.length_singleton]
      exact .inr ⟨rfl, room⟩

theorem recent_full (absent : batch ∉ recent capacity past) (nonzero : batch ≠ 0)
    (full : (recent capacity past).length = capacity)
    (ordered : recent capacity past = oldest :: rest) :
    recent capacity (past ++ [batch]) = rest ++ [batch] := by
  obtain ⟨older, split, -⟩ := recent_split capacity past
  apply recent_of_split (older.filter (· != batch) ++ [oldest])
  · rw [lastUses_concat past nonzero, split, List.filter_append, filter_absent absent, ordered]
    simp
  · left
    rw [ordered] at full
    simpa using full

end History

/-- What a cache asks of its owner. -/
inductive Demand where
  | create (batch : Nat)
  | destroy (batch : Nat)
deriving Repr, DecidableEq

/-- What acquiring a batch size demands, after all that was acquired in the past. -/
def demanded (capacity : Nat) (past : List Nat) (batch : Nat) : List Demand :=
  if batch = 0 ∨ batch ∈ recent capacity past then []
  else if (recent capacity past).length = capacity then
    (recent capacity past).head?.toList.map .destroy ++ [.create batch]
  else [.create batch]

/-- What was demanded, in order, and whether any of it failed. -/
structure Report where
  demands : List Demand := []
  failed : Bool := false

/-- A state with a report of what is demanded in it. -/
structure Reported (σ : Type) where
  world : σ
  report : Report := {}

def Reported.after {α : Type} (seen : Reported σ) (demand : Demand)
    (outcome : Except EmbeddingError α × σ) : Reported σ where
  world := outcome.2
  report.demands := seen.report.demands ++ [demand]
  report.failed := seen.report.failed || !outcome.1.isOk

/-- The same operations, with a report; resources carry the batch size that they were made for. -/
def reported (actions : ResourceActions (StateM σ) ρ) :
    ResourceActions (StateM (Reported σ)) (Nat × ρ) where
  create batch := fun seen =>
    let outcome := actions.create batch seen.world
    (outcome.1.map (batch, ·), seen.after (.create batch) outcome)
  destroy resource := fun seen =>
    let outcome := actions.destroy resource.2 seen.world
    (outcome.1, seen.after (.destroy resource.1) outcome)

theorem isOk_mapError {α : Type} (outcome : Except EmbeddingError α)
    (wrap : EmbeddingError → EmbeddingError) : (outcome.mapError wrap).isOk = outcome.isOk := by
  cases outcome <;> rfl

theorem reported_destroy {actions : ResourceActions (StateM σ) ρ} {resource : Nat × ρ}
    {seen : Reported σ}
    (failed : ((reported actions).destroy resource seen).1.isOk = false) :
    ((reported actions).destroy resource seen).2.report.failed = true := by
  have failed : (actions.destroy resource.2 seen.world).1.isOk = false := failed
  simp [reported, Reported.after, failed]

instance [MonadNote (StateM σ)] : MonadNote (StateM (Reported σ)) where
  note severity text := fun seen =>
    ((), { seen with world := ((note severity text : StateM σ Unit) seen.world).2 })

/-- A batch size to acquire, with how creating and destroying go meanwhile. -/
structure Acquire (σ ρ : Type) where
  batch : Nat
  actions : ResourceActions (StateM σ) ρ

variable [MonadNote (StateM σ)]

/-- Acquires one batch size after the other, with a report of each. -/
def acquireAll : List (Acquire σ ρ) → SessionCache (Nat × ρ) → σ →
    List Report × SessionCache (Nat × ρ)
  | [], cache, _ => ([], cache)
  | next :: rest, cache, world =>
      let ((_, cache), seen) := cache.acquire (reported next.actions) next.batch { world }
      let (reports, cache) := acquireAll rest cache seen.world
      (seen.report :: reports, cache)

variable {capacity batch : Nat} {past : List Nat} {cache spare : SessionCache (Nat × ρ)}
variable {actions : ResourceActions (StateM σ) ρ} {seen middle : Reported σ}

theorem add_unfailing {cleared : Except EmbeddingError Unit}
    (roomed : cache.makeRoom (reported actions) seen = ((cleared, spare), middle))
    (reports : cleared.isOk = false → middle.report.failed = true)
    (unfailing : (cache.add (reported actions) batch seen).2.report.failed = false) :
    middle.report.failed = false ∧
      (cache.add (reported actions) batch seen).2.report.demands =
        middle.report.demands ++ [.create batch] ∧
      ∃ content, (cache.add (reported actions) batch seen).1.2 =
        (spare.insert batch (batch, content)).touch batch := by
  simp only [add, bind_apply, roomed] at unfailing ⊢
  cases cleared with
  | error error =>
      have failed : middle.report.failed = false := unfailing
      rw [reports rfl] at failed
      cases failed
  | ok _ =>
      simp only [bind_apply] at unfailing ⊢
      cases made : actions.create batch middle.world with
      | mk outcome world =>
          simp only [reported, made] at unfailing ⊢
          cases outcome with
          | error error =>
              have failed : (middle.report.failed || true) = false := unfailing
              simp at failed
          | ok content =>
              have former : (middle.report.failed || false) = false := unfailing
              exact ⟨by simpa using former, rfl, content, rfl⟩

/-- What holds of a cache after a past without failures. -/
structure Recency (capacity : Nat) (past : List Nat) (cache : SessionCache (Nat × ρ)) : Prop where
  consistent : cache.Consistent
  sized : cache.capacity = capacity
  ordered : cache.order = recent capacity past
  labelled : ∀ entry ∈ cache.entries, entry.2.1 = entry.1

namespace Recency

theorem mem_keys (recency : Recency capacity past cache) :
    batch ∈ cache.keys ↔ batch ∈ recent capacity past := by
  rw [← recency.ordered, recency.consistent.mem_order]

theorem zero (recency : Recency capacity past cache) :
    Recency capacity (past ++ [0]) cache :=
  ⟨recency.consistent, recency.sized, recency.ordered.trans (recent_zero capacity past).symm,
    recency.labelled⟩

theorem touch (recency : Recency capacity past cache) (cached : batch ∈ cache.keys) :
    Recency capacity (past ++ [batch]) (cache.touch batch) where
  consistent := recency.consistent.touch cached
  sized := recency.sized
  ordered := by
    have nonzero : batch ≠ 0 := by
      rintro rfl
      exact recency.consistent.positive cached
    rw [recent_again (recency.mem_keys.mp cached) nonzero, ← recency.ordered]
    rfl
  labelled := recency.labelled

theorem ofInsert (consistent : cache.Consistent) (sized : cache.capacity = capacity)
    (labelled : ∀ entry ∈ cache.entries, entry.2.1 = entry.1) (absent : batch ∉ cache.keys)
    (nonzero : batch ≠ 0) (room : cache.size < cache.capacity)
    (ordered : recent capacity (past ++ [batch]) = cache.order ++ [batch]) (content : ρ) :
    Recency capacity (past ++ [batch]) ((cache.insert batch (batch, content)).touch batch) where
  consistent := consistent.insert_touch absent nonzero room _
  sized := sized
  ordered := by
    rw [← consistent.mem_order] at absent
    rw [ordered, ← filter_absent absent]
    rfl
  labelled := by
    intro entry member
    rcases List.mem_append.mp member with former | last
    · exact labelled entry former
    · rw [List.mem_singleton.mp last]

theorem makeRoom (recency : Recency capacity past cache) (full : cache.size = capacity)
    (positive : 0 < capacity) (actions : ResourceActions (StateM σ) ρ) (seen : Reported σ) :
    ∃ oldest order cleared middle,
      recent capacity past = oldest :: order ∧
      cache.makeRoom (reported actions) seen = ((cleared, cache.without oldest), middle) ∧
      (cleared.isOk = false → middle.report.failed = true) ∧
      middle.report.demands = seen.report.demands ++ [.destroy oldest] ∧
      (cache.without oldest).order = order ∧
      (cache.without oldest).size < capacity := by
  obtain ⟨oldest, order, resource, ordered, found⟩ :=
    recency.consistent.oldest_exists (by omega)
  have roomed : cache.makeRoom (reported actions) seen =
      cache.evictOldest (reported actions) seen := by
    rw [SessionCache.makeRoom, if_pos (by rw [recency.sized]; omega)]
  rw [Custody.evictOldest_eq (reported actions) recency.consistent ordered found] at roomed
  have labelled : resource.1 = oldest := recency.labelled _ (mem_entries_of_find? found)
  have fewer := size_without recency.consistent.keysNodup found
  refine ⟨oldest, order, _, _, recency.ordered ▸ ordered, roomed, ?_, ?_,
    filter_order recency.consistent ordered, by omega⟩
  · intro failed
    rw [isOk_mapError] at failed
    exact reported_destroy failed
  · rw [← labelled]
    rfl

theorem add (recency : Recency capacity past cache) (absent : batch ∉ cache.keys)
    (nonzero : batch ≠ 0)
    (unfailing : (cache.add (reported actions) batch seen).2.report.failed = false) :
    Recency capacity (past ++ [batch]) (cache.add (reported actions) batch seen).1.2 ∧
      (cache.add (reported actions) batch seen).2.report.demands =
        seen.report.demands ++ demanded capacity past batch := by
  have unused := recency.mem_keys.not.mp absent
  have positive := recency.consistent.roomy
  have length := recency.consistent.length_order
  have within := recency.consistent.bounded
  rw [recency.ordered] at length
  rw [recency.sized] at positive within
  by_cases full : (recent capacity past).length = capacity
  · obtain ⟨oldest, order, cleared, middle, ordered, roomed, reports, destroyed, left, room⟩ :=
      recency.makeRoom (by omega) positive actions seen
    obtain ⟨-, created, content, added⟩ := add_unfailing roomed reports unfailing
    have absentLeft : batch ∉ (cache.without oldest).keys := by
      rw [keys_without]
      exact fun member => absent (List.mem_of_mem_filter member)
    rw [created, destroyed, added]
    constructor
    · refine ofInsert (recency.consistent.without oldest) recency.sized ?_ absentLeft nonzero
        (recency.sized ▸ room) ?_ content
      · exact fun entry member => recency.labelled entry (mem_entries_of_without member)
      · rw [left, recent_full unused nonzero full ordered]
    · rw [demanded, if_neg (by simp [nonzero, unused]), if_pos full, ordered]
      simp
  · have room : cache.size < cache.capacity := by
      rw [recency.sized]
      omega
    have roomed : cache.makeRoom (reported actions) seen = ((.ok (), cache), seen) := by
      rw [SessionCache.makeRoom, if_neg (Nat.not_le_of_lt room)]
      rfl
    obtain ⟨-, created, content, added⟩ := add_unfailing roomed nofun unfailing
    rw [created, added]
    constructor
    · refine ofInsert recency.consistent recency.sized recency.labelled absent nonzero room ?_
        content
      rw [recency.ordered, recent_room unused nonzero (by omega)]
    · simp [demanded, nonzero, unused, full]

theorem acquire (recency : Recency capacity past cache)
    (unfailing : (cache.acquire (reported actions) batch seen).2.report.failed = false) :
    Recency capacity (past ++ [batch]) (cache.acquire (reported actions) batch seen).1.2 ∧
      (cache.acquire (reported actions) batch seen).2.report.demands =
        seen.report.demands ++ demanded capacity past batch := by
  unfold SessionCache.acquire at unfailing ⊢
  by_cases none : batch = 0
  · subst none
    refine ⟨recency.zero, ?_⟩
    exact (List.append_nil _).symm
  · rw [if_neg none] at unfailing ⊢
    cases found : cache.find? batch with
    | some resource =>
        have cached := mem_keys_of_entry (mem_entries_of_find? found)
        refine ⟨recency.touch cached, ?_⟩
        rw [demanded, if_pos (Or.inr (recency.mem_keys.mp cached)), List.append_nil]
        rfl
    | none =>
        rw [found] at unfailing
        exact recency.add (find?_eq_none.mp found) none unfailing

end Recency

theorem acquireAll_recent (recency : Recency capacity past cache) (world : σ)
    (acquires : List (Acquire σ ρ))
    (unfailing : ∀ report ∈ (acquireAll acquires cache world).1, report.failed = false) :
    Recency capacity (past ++ acquires.map (·.batch)) (acquireAll acquires cache world).2 ∧
      (acquireAll acquires cache world).1.map (·.demands) =
        List.zipWith (fun earlier batch => demanded capacity (past ++ earlier) batch)
          (acquires.map (·.batch)).inits (acquires.map (·.batch)) := by
  induction acquires generalizing past cache world with
  | nil =>
      rw [List.map_nil, List.append_nil]
      exact ⟨recency, rfl⟩
  | cons next rest ih =>
      obtain ⟨following, asked⟩ := recency.acquire (unfailing _ List.mem_cons_self)
      obtain ⟨ended, later⟩ := ih following
        (cache.acquire (reported next.actions) next.batch { world }).2.world
        fun report member => unfailing report (List.mem_cons_of_mem _ member)
      constructor
      · rw [List.map_cons, List.append_cons]
        exact ended
      · simp only [List.append_assoc, List.singleton_append] at later
        rw [List.map_cons, List.inits_cons, List.zipWith_cons_cons, List.zipWith_map_left,
          List.append_nil]
        exact congrArg₂ List.cons asked later

/-- A cache under which nothing fails holds the batch sizes that were acquired last.  It creates
what is not among them and destroys the oldest of them, if there are as many as it can hold. -/
theorem recently_used_kept (positive : 0 < capacity) :
    ∃ opened : SessionCache (Nat × ρ), new capacity = .ok opened ∧
      ∀ (world : σ) (acquires : List (Acquire σ ρ)),
        let batches := acquires.map (·.batch)
        let (reports, cache) := acquireAll acquires opened world
        (∀ report ∈ reports, report.failed = false) →
        cache.batchSizes = recent capacity batches ∧
          reports.map (·.demands) = batches.inits.zipWith (demanded capacity) batches := by
  have made : new capacity =
      .ok ({ capacity, entries := [], order := [] } : SessionCache (Nat × ρ)) := by
    rw [new, if_neg (Nat.ne_of_gt positive)]
  refine ⟨_, made, ?_⟩
  intro world acquires batches unfailing
  have start : Recency capacity [] ({ capacity, entries := [], order := [] } :
      SessionCache (Nat × ρ)) :=
    ⟨(consistent_of_new made).1, rfl, by simp [recent, lastUses], by simp⟩
  obtain ⟨recency, asked⟩ := acquireAll_recent start world acquires unfailing
  exact ⟨recency.ordered, asked⟩

open Scripted in
/-- A cache of two: acquiring 1 again keeps it, so that 2 makes room for 3. -/
theorem repeated_use_kept :
    let acquires := [1, 2, 0, 1, 3].map fun batch =>
      ({ batch, actions := Resource.actions none none } : Acquire ResourceTrace Resource)
    let (reports, cache) := acquireAll acquires
      ({ capacity := 2, entries := [], order := [] } : SessionCache (Nat × Resource)) {}
    0 < 2 ∧ (∀ report ∈ reports, report.failed = false) ∧ cache.batchSizes = [1, 3] ∧
      reports.map (·.demands) =
        [[.create 1], [.create 2], [], [], [.destroy 2, .create 3]] := by
  intro acquires
  obtain ⟨opened, made, runs⟩ := @recently_used_kept ResourceTrace Resource _ 2 (by decide)
  cases made
  obtain ⟨sizes, demands⟩ := runs {} acquires (by decide)
  exact ⟨by decide, by decide, sizes, demands⟩

end TextVectors.SessionCache

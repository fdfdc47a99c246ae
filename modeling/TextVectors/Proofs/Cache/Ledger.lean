import Mathlib.Algebra.Order.Group.Multiset
import TextVectors.Proofs.Cache.Custody
import TextVectors.Scripted.Resource

namespace TextVectors.SessionCache

/-! What becomes of the resources of one cache.

Every resource that is created gets a tag, and a ledger is kept of the tagged
resources that were made and that were destroyed.  Creating and destroying do
whatever they like beside that, and either may fail at any time.
-/

/-- A resource with its place among all that were made, and the batch size it was made for. -/
structure Tagged (ρ : Type) where
  number : Nat
  batch : Nat
  content : ρ

/-- The resources that were made and that were destroyed, newest first. -/
structure Ledger (σ ρ : Type) where
  world : σ
  made : List (Tagged ρ) := []
  destroyed : List (Tagged ρ) := []

variable {σ ρ : Type}

/-- The same operations, with a ledger of what they do. -/
def tracked (actions : ResourceActions (StateM σ) ρ) :
    ResourceActions (StateM (Ledger σ ρ)) (Tagged ρ) where
  create batch := fun ledger =>
    match actions.create batch ledger.world with
    | (.ok content, world) =>
        let resource : Tagged ρ := { number := ledger.made.length, batch, content }
        (.ok resource, { ledger with world, made := resource :: ledger.made })
    | (.error error, world) => (.error error, { ledger with world })
  destroy resource := fun ledger =>
    let (result, world) := actions.destroy resource.content ledger.world
    (result, { ledger with world, destroyed := resource :: ledger.destroyed })

instance [MonadNote (StateM σ)] : MonadNote (StateM (Ledger σ ρ)) where
  note severity text := fun ledger =>
    ((), { ledger with world := ((note severity text : StateM σ Unit) ledger.world).2 })

/-- What is asked of a cache.  Each time creating and destroying may go differently. -/
inductive Request (σ ρ : Type) where
  | acquire (actions : ResourceActions (StateM σ) ρ) (batch : Nat)
  | close (actions : ResourceActions (StateM σ) ρ)

section

variable [MonadNote (StateM σ)]

def Request.perform : Request σ ρ → SessionCache (Tagged ρ) × Ledger σ ρ →
    SessionCache (Tagged ρ) × Ledger σ ρ
  | .acquire actions batch, (cache, ledger) =>
      let ((_, cache), ledger) := cache.acquire (tracked actions) batch ledger
      (cache, ledger)
  | .close actions, (cache, ledger) =>
      let ((_, cache), ledger) := cache.close (tracked actions) ledger
      (cache, ledger)

/-- The cache and the ledger after a sequence of requests. -/
def performAll (requests : List (Request σ ρ)) (start : SessionCache (Tagged ρ) × Ledger σ ρ) :
    SessionCache (Tagged ρ) × Ledger σ ρ :=
  requests.foldl (fun reached request => request.perform reached) start

end

/-- How often a resource is cached. -/
def timesCached (cache : SessionCache (Tagged ρ)) (resource : Tagged ρ) : Nat :=
  cache.entries.countP (·.2.number == resource.number)

/-- How often a resource was destroyed. -/
def Ledger.timesDestroyed (ledger : Ledger σ ρ) (resource : Tagged ρ) : Nat :=
  ledger.destroyed.countP (·.number == resource.number)

/-- What holds between a cache of some capacity and its ledger. -/
structure Conserved (capacity : Nat) (cache : SessionCache (Tagged ρ)) (ledger : Ledger σ ρ) :
    Prop where
  keysNodup : cache.keys.Nodup
  orderNodup : cache.order.Nodup
  mem_order : ∀ batch, batch ∈ cache.order ↔ batch ∈ cache.keys
  bounded : cache.size ≤ capacity
  positive : 0 ∉ cache.keys
  /-- Numbers tell the resources apart. -/
  numbered : (ledger.made.map (·.number)).Nodup
  stored : ∀ entry ∈ cache.entries, entry.2 ∈ ledger.made ∧ entry.2.batch = entry.1
  destroyed : ∀ resource ∈ ledger.destroyed, resource ∈ ledger.made
  accounted : ∀ resource ∈ ledger.made,
    (cache.timesCached resource = 1 ∧ ledger.timesDestroyed resource = 0) ∨
    (cache.timesCached resource = 0 ∧ ledger.timesDestroyed resource = 1)

/-- Nothing that was made is left, and nothing was destroyed twice. -/
def Ledger.Settled (ledger : Ledger σ ρ) : Prop :=
  ∀ resource ∈ ledger.made, ledger.timesDestroyed resource = 1

/-- Of what was made, everything is either still kept or destroyed. -/
structure Ledger.Balanced (ledger : Ledger σ ρ) (kept : Multiset (Tagged ρ)) : Prop where
  conserved : kept + ledger.destroyed = ledger.made
  numbered : (ledger.made.map (·.number)).Nodup
  placed : ∀ resource ∈ ledger.made, resource.number < ledger.made.length

/-- Each resource has a share in the accounts of its own. -/
def tagging : Custody (Ledger σ ρ) (Tagged ρ) (Multiset (Tagged ρ)) where
  accounts := Ledger.Balanced
  share resource := {resource}
  fits batch resource := resource.batch = batch
  refuses _ _ := True
  sticks _ := True

theorem total_tagging (cache : SessionCache (Tagged ρ)) :
    (tagging : Custody (Ledger σ ρ) _ _).total cache = ↑(cache.entries.map (·.2)) := by
  rw [Custody.total]
  induction cache.entries with
  | nil => rfl
  | cons entry rest ih =>
      rw [List.map_cons, List.sum_cons, ih, List.map_cons, ← Multiset.cons_coe]
      exact Multiset.singleton_add entry.2 _

variable {ledger : Ledger σ ρ} {cache : SessionCache (Tagged ρ)} {capacity : Nat}
variable {kept : Multiset (Tagged ρ)}

theorem Ledger.Balanced.create (balanced : ledger.Balanced kept) (world : σ) (batch : Nat)
    (content : ρ) :
    let resource : Tagged ρ := { number := ledger.made.length, batch, content }
    ({ ledger with world, made := resource :: ledger.made } : Ledger σ ρ).Balanced
      ({resource} + kept) where
  conserved := by
    rw [add_assoc, balanced.conserved]
    exact Multiset.singleton_add _ _
  numbered := by
    rw [List.map_cons, List.nodup_cons]
    refine ⟨?_, balanced.numbered⟩
    intro member
    obtain ⟨former, listed, same⟩ := List.mem_map.mp member
    exact absurd same (Nat.ne_of_lt (balanced.placed former listed))
  placed := by
    intro resource member
    rw [List.length_cons]
    rcases List.mem_cons.mp member with rfl | former
    · exact Nat.lt_succ_self _
    · exact Nat.lt_succ_of_lt (balanced.placed resource former)

theorem Ledger.Balanced.destroy {resource : Tagged ρ}
    (balanced : ledger.Balanced ({resource} + kept)) (world : σ) :
    ({ ledger with world, destroyed := resource :: ledger.destroyed } : Ledger σ ρ).Balanced
      kept where
  conserved := by
    rw [← balanced.conserved, ← Multiset.cons_coe, ← Multiset.singleton_add, add_left_comm,
      add_assoc]
  numbered := balanced.numbered
  placed := balanced.placed

theorem tagging_lawful [MonadNote (StateM σ)] (actions : ResourceActions (StateM σ) ρ) :
    tagging.Lawful (tracked actions) where
  noted _ _ balanced := ⟨balanced.conserved, balanced.numbered, balanced.placed⟩
  created := by
    intro batch ledger given result after balanced ran
    cases made : actions.create batch ledger.world with
    | mk outcome world =>
        simp only [tracked, made] at ran
        cases outcome with
        | ok content =>
            cases ran
            exact .inl ⟨_, rfl, rfl, balanced.create world batch content⟩
        | error error =>
            cases ran
            exact .inr ⟨_, rfl, trivial, balanced.conserved, balanced.numbered, balanced.placed⟩
  destroyed := by
    intro batch resource ledger given result after _ balanced ran
    cases ran
    exact ⟨balanced.destroy _, fun _ _ => trivial⟩

/-- A number that occurs once among all is on one side or on the other. -/
theorem Ledger.Balanced.count (balanced : ledger.Balanced kept) {resource : Tagged ρ}
    (member : resource ∈ ledger.made) :
    (kept.map (·.number)).count resource.number + ledger.timesDestroyed resource = 1 := by
  have numbers := congrArg (Multiset.map Tagged.number) balanced.conserved
  rw [Multiset.map_add, Multiset.map_coe, Multiset.map_coe] at numbers
  have counts := congrArg (Multiset.count resource.number) numbers
  rw [Multiset.count_add, Multiset.coe_count, Multiset.coe_count,
    List.count_eq_one_of_mem balanced.numbered (List.mem_map_of_mem member)] at counts
  rw [← counts, Ledger.timesDestroyed, List.count, List.countP_map]
  rfl

theorem Ledger.Balanced.settled (balanced : ledger.Balanced 0) : ledger.Settled := by
  intro resource member
  have once := balanced.count member
  rwa [Multiset.map_zero, Multiset.count_zero, Nat.zero_add] at once

/-- The invariant of all requests. -/
structure Kept (capacity : Nat) (reached : SessionCache (Tagged ρ) × Ledger σ ρ) : Prop where
  guarded : tagging.Guarded reached.1 reached.2 0
  capacity : reached.1.capacity = capacity

theorem Kept.conserved (kept : Kept capacity (cache, ledger)) :
    Conserved capacity cache ledger := by
  have balanced : ledger.Balanced (Multiset.ofList (cache.entries.map (·.2))) := by
    have vouched := kept.guarded.vouched
    rw [total_tagging, add_zero] at vouched
    exact vouched
  have members : ∀ resource, (resource ∈ cache.entries.map (·.2) ∨ resource ∈ ledger.destroyed) ↔
      resource ∈ ledger.made := by
    intro resource
    have same := congrArg (resource ∈ ·) balanced.conserved
    simpa only [Multiset.mem_add, Multiset.mem_coe, eq_iff_iff] using same
  have consistent := kept.guarded.consistent
  refine ⟨consistent.keysNodup, consistent.orderNodup, consistent.mem_order, ?_,
    consistent.positive, balanced.numbered, ?_, ?_, ?_⟩
  · have bounded := consistent.bounded
    rwa [kept.capacity] at bounded
  · intro entry member
    exact ⟨(members entry.2).mp (.inl (List.mem_map_of_mem member)),
      kept.guarded.suited entry member⟩
  · exact fun resource member => (members resource).mp (.inr member)
  · intro resource member
    have once := balanced.count member
    have cached : ((Multiset.ofList (cache.entries.map (·.2))).map (·.number)).count
        resource.number = cache.timesCached resource := by
      rw [Multiset.map_coe, Multiset.coe_count, List.count, List.countP_map, List.countP_map]
      rfl
    omega

variable [MonadNote (StateM σ)]

theorem Kept.acquire {actions : ResourceActions (StateM σ) ρ} {batch : Nat}
    {result : Except EmbeddingError (Tagged ρ)} {rest : SessionCache (Tagged ρ)}
    {after : Ledger σ ρ} (kept : Kept capacity (cache, ledger))
    (ran : cache.acquire (tracked actions) batch ledger = ((result, rest), after)) :
    Kept capacity (rest, after) ∧ ∀ resource, result = .ok resource →
      rest.find? batch = some resource ∧ rest.order.getLast? = some batch := by
  obtain ⟨guarded, same, stored, -⟩ := kept.guarded.acquire (tagging_lawful actions) ran
  exact ⟨⟨guarded, same.trans kept.capacity⟩, stored⟩

theorem Kept.close {actions : ResourceActions (StateM σ) ρ} {result : Except EmbeddingError Unit}
    {rest : SessionCache (Tagged ρ)} {after : Ledger σ ρ} (kept : Kept capacity (cache, ledger))
    (ran : cache.close (tracked actions) ledger = ((result, rest), after)) :
    Kept capacity (rest, after) ∧ rest.entries = [] ∧ after.Settled := by
  obtain ⟨rfl, guarded⟩ := kept.guarded.close (tagging_lawful actions) ran
  exact ⟨⟨guarded, kept.capacity⟩, rfl, guarded.vouched.settled⟩

theorem Kept.perform {reached : SessionCache (Tagged ρ) × Ledger σ ρ}
    (kept : Kept capacity reached) (request : Request σ ρ) :
    Kept capacity (request.perform reached) := by
  obtain ⟨cache, ledger⟩ := reached
  cases request with
  | acquire actions batch => exact (kept.acquire rfl).1
  | close actions => exact (kept.close rfl).1

theorem Kept.performAll {reached : SessionCache (Tagged ρ) × Ledger σ ρ}
    (kept : Kept capacity reached) (requests : List (Request σ ρ)) :
    Kept capacity (SessionCache.performAll requests reached) := by
  induction requests generalizing reached with
  | nil => exact kept
  | cons request rest ih => exact ih (kept.perform request)

/-- Whatever is asked of a cache, and whatever fails on the way: its two records agree, what
was acquired is cached and the last one used, and no resource is lost or destroyed twice.
Nothing is left when the cache is closed or given up. -/
theorem resources_conserved (positive : 0 < capacity) :
    ∃ opened : SessionCache (Tagged ρ), SessionCache.new capacity = .ok opened ∧
      ∀ (world : σ) (requests : List (Request σ ρ)) (cache : SessionCache (Tagged ρ))
        (ledger : Ledger σ ρ),
        SessionCache.performAll requests (opened, { world }) = (cache, ledger) →
        Conserved capacity cache ledger ∧
        ∀ actions : ResourceActions (StateM σ) ρ,
          (∀ batch result rest after,
            cache.acquire (tracked actions) batch ledger = ((result, rest), after) →
            ∀ resource, result = .ok resource →
              rest.find? batch = some resource ∧ resource.batch = batch ∧
              resource ∈ after.made ∧ rest.order.getLast? = some batch) ∧
          (∀ result rest after, cache.close (tracked actions) ledger = ((result, rest), after) →
            rest.entries = [] ∧ after.Settled) ∧
          (cache.discard (tracked actions) ledger).2.Settled := by
  refine ⟨{ capacity, entries := [], order := [] }, ?_, ?_⟩
  · rw [new, if_neg (Nat.ne_of_gt positive)]
  · intro world requests cache ledger reached
    have start : Kept capacity (({ capacity, entries := [], order := [] } :
        SessionCache (Tagged ρ)), ({ world } : Ledger σ ρ)) :=
      ⟨Custody.guarded_of_new (by rw [new, if_neg (Nat.ne_of_gt positive)])
        ⟨rfl, by simp, by simp⟩, rfl⟩
    have kept := start.performAll requests
    rw [reached] at kept
    refine ⟨kept.conserved, fun actions => ⟨?_, ?_, ?_⟩⟩
    · intro batch result rest after ran resource same
      obtain ⟨keptRest, stored⟩ := kept.acquire ran
      obtain ⟨found, last⟩ := stored resource same
      obtain ⟨made, suited⟩ := keptRest.conserved.stored _ (mem_entries_of_find? found)
      exact ⟨found, suited, made, last⟩
    · intro result rest after ran
      exact (kept.close ran).2
    · exact (kept.guarded.discard (tagging_lawful actions)).settled

open Scripted in
/-- Two requests to a cache of one entry whose resources fail to be destroyed: the second evicts
the resource of the first and makes none. -/
theorem failed_eviction_conserved :
    let actions := Resource.actions none (some .closed)
    let reached := SessionCache.performAll [.acquire actions 2, .acquire actions 3]
      (({ capacity := 1, entries := [], order := [] } : SessionCache (Tagged Resource)),
        ({ world := {} } : Ledger ResourceTrace Resource))
    0 < 1 ∧ Conserved 1 reached.1 reached.2 ∧ reached.1.order = [] ∧
      reached.2.made.map (·.batch) = [2] ∧ reached.2.destroyed.map (·.number) = [0] := by
  intro actions reached
  obtain ⟨opened, made, runs⟩ := @resources_conserved ResourceTrace Resource 1 _ (by decide)
  cases made
  exact ⟨by decide, (runs {} [.acquire actions 2, .acquire actions 3] _ _ rfl).1, rfl, rfl, rfl⟩

end TextVectors.SessionCache

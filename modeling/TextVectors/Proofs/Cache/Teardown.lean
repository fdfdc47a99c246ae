import TextVectors.Proofs.Cache.FailedAcquire
import TextVectors.Proofs.Joining

namespace TextVectors.SessionCache

/-! Closing a cache reports every failure once.

One entry is destroyed after the other, also after some have failed.  Each failure is wrapped before
it is joined to the others, so an error that stands for several itself stays whole inside.
-/

variable {σ ρ : Type}

/-- What became of one entry. -/
structure Outcome (ρ : Type) where
  batch : Nat
  resource : ρ
  answer : Except EmbeddingError Unit

namespace Outcome

def entry (outcome : Outcome ρ) : Nat × ρ :=
  (outcome.batch, outcome.resource)

def exchange (outcome : Outcome ρ) : Exchange ρ :=
  .destroy outcome.resource outcome.answer

/-- What is reported of it, if it failed. -/
def failure? (outcome : Outcome ρ) : Option EmbeddingError :=
  match outcome.answer with
  | .ok () => none
  | .error error => some (.context s!"failed to destroy batch-{outcome.batch} session" error)

end Outcome

/-- What a list of failures is reported as. -/
inductive Reports : List EmbeddingError → Except EmbeddingError Unit → Prop
  | nothing : Reports [] (.ok ())
  | single (failure) : Reports [failure] (.error failure)
  | several {failures} : 2 ≤ failures.length → Reports failures (.error (.multiple failures))

/-- All entries were destroyed, in some order, and nothing else was asked of the owner. -/
structure Teardown (cache : SessionCache ρ) (outcomes : List (Outcome ρ))
    (result : Except EmbeddingError Unit) (rest : SessionCache ρ)
    (exchanges : List (Exchange ρ)) : Prop where
  each : (outcomes.map Outcome.entry).Perm cache.entries
  distinct : (outcomes.map Outcome.batch).Nodup
  destroyed : exchanges = outcomes.map Outcome.exchange
  emptied : rest.entries = [] ∧ rest.order = []
  reported : Reports (outcomes.filterMap Outcome.failure?) result

section Joined

variable {failures : List EmbeddingError}

theorem plain_failures (outcomes : List (Outcome ρ)) :
    Joining.Plain EmbeddingError.multiple (outcomes.filterMap Outcome.failure?) := by
  intro failure member members
  obtain ⟨outcome, -, wrapped⟩ := List.mem_filterMap.mp member
  unfold Outcome.failure? at wrapped
  split at wrapped
  · cases wrapped
  · cases wrapped
    exact nofun

/-- Failures that stand for themselves are joined as they are. -/
theorem join_plain (plain : Joining.Plain EmbeddingError.multiple failures) :
    EmbeddingError.join failures = Joining.gather EmbeddingError.multiple failures := by
  have single : ∀ failure ∈ failures, failure.parts = [failure] := by
    intro failure member
    exact EmbeddingError.gathers.parts_other failure (plain failure member)
  rw [EmbeddingError.join_eq, List.flatMap_congr single, List.flatMap_singleton']

theorem reports_join (plain : Joining.Plain EmbeddingError.multiple failures) :
    Reports failures
      (match EmbeddingError.join failures with
      | none => .ok ()
      | some error => .error error) := by
  rw [join_plain plain]
  match failures with
  | [] => exact .nothing
  | [failure] => exact .single failure
  | first :: second :: rest => exact .several (by simp)

end Joined

section Closing

variable {cache : SessionCache ρ} {capacity : Nat}

/-- The outcomes follow the entries one by one, whatever was answered before. -/
theorem destroyAll_outcomes (actions : ResourceActions (StateM σ) ρ) (entries : List (Nat × ρ))
    (minutes : Minuted σ ρ) :
    ∃ (outcomes : List (Outcome ρ)) (world : σ), outcomes.map Outcome.entry = entries ∧
      destroyAll (minuted actions) entries minutes =
        (outcomes.filterMap Outcome.failure?,
          { world, exchanges := minutes.exchanges ++ outcomes.map Outcome.exchange }) := by
  induction entries generalizing minutes with
  | nil =>
      refine ⟨[], minutes.world, rfl, ?_⟩
      rw [List.map_nil, List.append_nil]
      rfl
  | cons entry rest ih =>
      obtain ⟨batch, resource⟩ := entry
      cases answered : actions.destroy resource minutes.world with
      | mk answer middle =>
          let next : Minuted σ ρ :=
            { world := middle, exchanges := minutes.exchanges ++ [.destroy resource answer] }
          have asked : (minuted actions).destroy resource minutes = (answer, next) := by
            simp only [minuted, answered, next]
          obtain ⟨outcomes, world, same, ended⟩ := ih next
          refine ⟨⟨batch, resource, answer⟩ :: outcomes, world, ?_, ?_⟩
          · rw [List.map_cons, same]
            rfl
          · simp only [destroyAll, bind_apply, asked, ended, next, List.append_assoc,
              List.singleton_append, List.map_cons]
            cases answer <;> rfl

theorem close_outcomes (actions : ResourceActions (StateM σ) ρ) (cache : SessionCache ρ)
    (world : σ) :
    let ((result, rest), minutes) := cache.close (minuted actions) { world }
    ∃ outcomes : List (Outcome ρ), outcomes.map Outcome.entry = cache.entries ∧
      minutes.exchanges = outcomes.map Outcome.exchange ∧
      rest = { cache with entries := [], order := [] } ∧
      Reports (outcomes.filterMap Outcome.failure?) result := by
  obtain ⟨outcomes, last, same, ended⟩ := destroyAll_outcomes actions cache.entries { world }
  have reported := reports_join (plain_failures outcomes)
  simp only [close, bind_apply, ended]
  cases joined : EmbeddingError.join (outcomes.filterMap Outcome.failure?) with
  | none =>
      rw [joined] at reported
      exact ⟨outcomes, same, rfl, rfl, reported⟩
  | some error =>
      rw [joined] at reported
      exact ⟨outcomes, same, rfl, rfl, reported⟩

/-- Dropping a cache asks for the same as closing it. -/
theorem discard_exchanges [MonadNote (StateM σ)] (actions : ResourceActions (StateM σ) ρ)
    (cache : SessionCache ρ) (minutes : Minuted σ ρ) :
    (cache.discard (minuted actions) minutes).2.exchanges =
      (cache.close (minuted actions) minutes).2.exchanges := by
  unfold discard
  cases empty : cache.isEmpty with
  | true =>
      have cleared : cache.entries = [] := by simpa [isEmpty] using empty
      simp only [close, cleared]
      rfl
  | false =>
      simp only [Bool.not_false, if_true, bind_apply]
      cases closed : cache.close (minuted actions) minutes with
      | mk outcome last =>
          obtain ⟨result, rest⟩ := outcome
          cases result <;> rfl

/-- Closing a cache that was in use destroys every entry once, in whatever order they are kept, and
leaves none.  All that failed is reported, each failure once and with its own error inside; a cache
that is dropped asks for the same.  Afterwards there is nothing left to do. -/
theorem teardown_reported [MonadNote (StateM σ)] (reached : Reached capacity cache)
    {kept : List (Nat × ρ)} (reordered : kept.Perm cache.entries)
    (actions : ResourceActions (StateM σ) ρ) (world : σ) :
    let used : SessionCache ρ := { cache with entries := kept }
    let ((result, rest), minutes) := used.close (minuted actions) { world }
    (∃ outcomes, Teardown cache outcomes result rest minutes.exchanges) ∧
      (used.discard (minuted actions) { world }).2.exchanges = minutes.exchanges ∧
      ∀ (later : ResourceActions (StateM σ) ρ) (world : σ),
        rest.close (minuted later) { world } = ((.ok (), rest), { world }) ∧
        rest.discard (minuted later) { world } = ((), { world }) := by
  intro used
  obtain ⟨outcomes, same, destroyed, emptied, reported⟩ := close_outcomes actions used world
  have each : (outcomes.map Outcome.entry).Perm cache.entries := by
    rw [same]
    exact reordered
  have distinct : (outcomes.map Outcome.batch).Nodup := by
    have keys := each.map Prod.fst
    rw [List.map_map] at keys
    exact keys.nodup_iff.mpr reached.consistent.1.keysNodup
  refine ⟨⟨outcomes, each, distinct, destroyed, ?_, reported⟩,
    discard_exchanges actions used { world }, fun later world => ?_⟩
  · rw [emptied]
    exact ⟨rfl, rfl⟩
  · rw [emptied]
    exact ⟨rfl, rfl⟩

end Closing

open Scripted in
/-- Of three resources two fail to be destroyed, one of them with a list of errors. -/
theorem two_failures_reported :
    let nested : EmbeddingError := .multiple [.closed, .closed]
    let cache : SessionCache Resource :=
      { capacity := 3, entries := [(1, ⟨1, none⟩), (2, ⟨2, some .closed⟩), (3, ⟨3, some nested⟩)]
        order := [1, 2, 3] }
    let kept := [(3, ⟨3, some nested⟩), (1, ⟨1, none⟩), (2, ⟨2, some .closed⟩)]
    let ((result, rest), minutes) :=
      ({ cache with entries := kept } : SessionCache Resource).close
        (minuted (Resource.actions none none)) { world := {} }
    Reached 3 cache ∧ kept.Perm cache.entries ∧
      (∃ outcomes, Teardown cache outcomes result rest minutes.exchanges) ∧
      minutes.world.destroyed = [2, 1, 3] ∧
      result = .error (.multiple
        [.context "failed to destroy batch-3 session" nested,
          .context "failed to destroy batch-2 session" .closed]) := by
  intro nested cache kept
  have opened : Reached 3 ({ capacity := 3, entries := [], order := [] } : SessionCache Resource) :=
    .opened rfl
  have reached : Reached 3 cache :=
    ((opened.acquired (Resource.actions none none) 1 ({} : ResourceTrace)).acquired
      (Resource.actions none (some .closed)) 2 ({} : ResourceTrace)).acquired
      (Resource.actions none (some nested)) 3 ({} : ResourceTrace)
  have reordered : kept.Perm cache.entries := @List.perm_append_comm _ [_] [_, _]
  have reported := teardown_reported reached reordered (Resource.actions none none)
    ({} : ResourceTrace)
  exact ⟨reached, reordered, reported.1, rfl, rfl⟩

end TextVectors.SessionCache

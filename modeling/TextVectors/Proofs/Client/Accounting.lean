import TextVectors.Proofs.Client.Operations
import TextVectors.Scripted.Host
import TextVectors.Scripted.Runtime

namespace TextVectors.Client

/-! The accounts of a client that starts with nothing.

After any operations, whatever the library did on the way, the client owns what is live.
Objects are therefore released at most once, and everything has been released when the client
holds nothing any more.
-/

open Inference Owned TextVectors.Client.Task

variable {host : Host} {holdings after : Holdings} {engine last : Engine}

/-- A step of the client leaves it in order, whether or not the operation is carried out. -/
theorem perform_settled [Lineage] {operation : Operation} {reply : Except ClientError Reply}
    (working : Working operation.runtime? holdings engine)
    (ran : perform operation holdings engine = ((reply, after), last)) : after.Settled last := by
  have reached := task_yields operation holdings engine working
  rw [perform] at ran
  rw [ran] at reached
  cases reply with
  | ok reply => exact reached
  | error error => exact reached

theorem performAll_cons {operation : Operation} {rest : List Operation}
    {replies : List (Except ClientError Reply)}
    (ran : performAll (operation :: rest) holdings engine = ((replies, after), last)) :
    ∃ reply between middle others,
      perform operation holdings engine = ((reply, between), middle) ∧
        performAll rest between middle = ((others, after), last) := by
  cases first : perform operation holdings engine with
  | mk outcome middle =>
      obtain ⟨reply, between⟩ := outcome
      cases second : performAll rest between middle with
      | mk outcome ended =>
          obtain ⟨others, held⟩ := outcome
          simp only [performAll, bind_apply, first, second] at ran
          cases ran
          exact ⟨reply, between, middle, others, rfl, second⟩

namespace Holdings

theorem settled_of_first [Lineage] (first : Lineage.earlier = []) (host : Host)
    (behaviour : Behaviour) : ({ host } : Holdings).Settled { behaviour } where
  kept := {
    environment := by simp [Environment.Counted]
    runtimes := NameTable.sorted_empty
    tensors := NameTable.sorted_empty
    whole _ held := nomatch held
    sessions := NameTable.sorted_empty
    embedders := NameTable.sorted_empty
    cached _ held := nomatch held }
  balanced := Engine.Balanced.initial behaviour first

/-- Nothing is held by name, and no load is left. -/
structure Cleared (holdings : Holdings) : Prop where
  runtimes : holdings.runtimes.entries = []
  tensors : holdings.tensors.entries = []
  sessions : holdings.sessions.entries = []
  embedders : holdings.embedders.entries = []
  count : holdings.environment.count = 0

theorem Cleared.assets (cleared : holdings.Cleared) (kept : holdings.Kept) :
    holdings.assets = 0 := by
  simp only [Holdings.assets, NameTable.total, cleared.runtimes, cleared.tensors, cleared.sessions,
    cleared.embedders, Environment.assets_of_count_zero kept.environment cleared.count,
    List.map_nil, List.sum_nil, add_zero]

section

variable [Lineage]

theorem Settled.live_of_cleared (settled : holdings.Settled engine) (cleared : holdings.Cleared) :
    engine.history.live = [] := by
  have live := settled.balanced.live
  rw [cleared.assets settled.kept] at live
  exact (Multiset.coe_eq_zero _).mp live

theorem forM_drops {α : Type} {assets : α → Owned} {drop : α → Step Unit} {values : List α}
    (drops : ∀ value ∈ values, Trades (assets value) (drop value) (fun _ => 0) (fun _ => True)) :
    Trades (values.map assets).sum (values.forM drop) (fun _ => 0) (fun _ => True) := by
  induction values with
  | nil => exact .ofPure trivial rfl
  | cons value rest ih =>
      have others := ih fun other member => drops other (List.mem_cons_of_mem _ member)
      refine .bindBeside _ (drops value List.mem_cons_self) List.sum_cons fun _ _ => ?_
      rw [zero_add]
      exact others

theorem values_drop {α : Type} (slot : Slot α) {drop : α → Step Unit} (kept : holdings.Kept)
    (drops : ∀ value, slot.good value →
      Trades (slot.assets value) (drop value) (fun _ => 0) (fun _ => True)) :
    Trades ((slot.table holdings).total slot.assets) ((slot.table holdings).values.forM drop)
      (fun _ => 0) (fun _ => True) := by
  have all := forM_drops fun value member => drops value (slot.whole kept value member)
  rw [NameTable.values, List.map_map] at all
  exact all

/-- What a client gives up leaves nothing that is live, in whatever state it is given up. -/
theorem Settled.live_of_released (settled : holdings.Settled engine) :
    ((do let rest ← holdings.release; rest.leave : Step Unit) engine).2.history.live = [] := by
  have kept := settled.kept
  have given : Trades holdings.assets (do let rest ← holdings.release; rest.leave)
      (fun _ => 0) (fun _ => True) := by
    simp only [release, leave, bind_assoc, pure_bind]
    -- At each step everything that is given up later stands beside what is given up now.
    refine .bindBeside (holdings.environment.assets + (holdings.runtimes.total reference +
      (holdings.tensors.total tensorAssets + holdings.sessions.total Session.assets)))
      (values_drop embedderSlot kept discardEmbedder_drops) ?_ fun _ _ => ?_
    · simp only [assets, embedderSlot]
      abel
    refine .bindBeside (holdings.environment.assets + (holdings.runtimes.total reference +
      holdings.tensors.total tensorAssets))
      (values_drop sessionSlot kept discardSession_drops) ?_ fun _ _ => ?_
    · simp only [sessionSlot]
      abel
    refine .bindBeside (holdings.environment.assets + holdings.runtimes.total reference)
      (values_drop tensorSlot kept discardTensor_drops) ?_ fun _ _ => ?_
    · simp only [tensorSlot]
      abel
    refine .bindBeside holdings.environment.assets
      (values_drop runtimeSlot kept letGo_drops) ?_ fun _ _ => ?_
    · simp only [runtimeSlot]
      abel
    rw [zero_add]
    refine .bind (Environment.detach_trades holdings.environment) fun after detached => ?_
    refine .ofPure trivial ?_
    simp only [Environment.assets, detached.2]
  have balanced := settled.balanced
  rw [← add_zero holdings.assets] at balanced
  have live := (given 0 engine balanced).2.live
  exact (Multiset.coe_eq_zero _).mp live

end

end Holdings

section

/-- Nothing has to be known about what objects are made through. -/
local instance : Lineage := ⟨[], fun _ _ => True, fun _ => True⟩

theorem Holdings.start_settled (host : Host) (behaviour : Behaviour) :
    ({ host } : Holdings).Settled { behaviour } :=
  settled_of_first rfl host behaviour

theorem performAll_settled {operations : List Operation} {replies : List (Except ClientError Reply)}
    (settled : holdings.Settled engine)
    (ran : performAll operations holdings engine = ((replies, after), last)) :
    after.Settled last := by
  induction operations generalizing holdings engine replies with
  | nil =>
      cases ran
      exact settled
  | cons operation rest ih =>
      obtain ⟨reply, between, middle, others, first, second⟩ := performAll_cons ran
      exact ih (perform_settled ⟨settled, fun _ _ => trivial⟩ first) second

/-- Whatever a client asks for and whatever the library answers: the library is only given
objects that exist and were not released, it releases none twice, and when nothing is held any
more it has released each of them. -/
theorem objects_accounted (host : Host) (behaviour : Behaviour) (operations : List Operation)
    (replies : List (Except ClientError Reply)) (holdings : Holdings) (engine : Engine)
    (ran : performAll operations { host } { behaviour } = ((replies, holdings), engine)) :
    engine.history.released.Nodup ∧
      (∀ newer event older, engine.history = newer ++ event :: older →
        ∀ handle ∈ event.uses, handle ∈ History.created older ∧ handle ∉ History.released older) ∧
      (holdings.Cleared →
        ∀ handle ∈ engine.history.created, engine.history.released.count handle = 1) := by
  have settled := performAll_settled (Holdings.start_settled host behaviour) ran
  have sound := settled.balanced.sound
  refine ⟨sound.released_nodup, ?_, ?_⟩
  · intro newer event older split handle used
    rw [split] at sound
    exact sound.uses_live used
  · intro cleared handle made
    exact sound.released_once (settled.live_of_cleared cleared) made

end

/-- A session that cannot be created, on a tensor that is given up before the environment. -/
theorem failed_session_accounted :
    let operations : List Operation := [.load, .createTensor "t" .float (.dims [2]) none none,
      .createSession "s" "@/model.onnx" ["x"] ["y"] ⟨["t"], ["t"]⟩ none none, .discard "t", .unload]
    let script : Scripted.Runtime := { failures := [⟨.createSession, 1, 1, none⟩] }
    let reached := performAll operations { host := Scripted.host (some "@/libonnxruntime.so") true }
      { behaviour := script.behaviour }
    reached.1.2.Cleared ∧ reached.2.history.created.length = 5 ∧
      ∀ handle ∈ reached.2.history.created, reached.2.history.released.count handle = 1 := by
  intro operations script reached
  have cleared : reached.1.2.Cleared :=
    ⟨by decide +kernel, by decide +kernel, by decide +kernel, by decide +kernel, by decide +kernel⟩
  have accounted := objects_accounted (Scripted.host (some "@/libonnxruntime.so") true)
    script.behaviour operations reached.1.1 reached.1.2 reached.2
    (by simp only [Prod.mk.eta, reached])
  exact ⟨cleared, by decide +kernel, accounted.2.2 cleared⟩

end TextVectors.Client

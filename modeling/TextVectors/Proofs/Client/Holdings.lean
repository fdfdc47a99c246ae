import TextVectors.Client.Perform
import TextVectors.Proofs.Client.NameTable
import TextVectors.Proofs.Native.Embed

namespace TextVectors

/-! What a client owns: its environment and everything it holds by name. -/

open Inference Owned

namespace NameTable

variable {α : Type} {table : NameTable α} {name : String} {value : α}

/-- What the things in a table own in all. -/
def total (assets : α → Owned) (table : NameTable α) : Owned :=
  (table.entries.map fun entry => assets entry.2).sum

theorem Sorted.total_put (sorted : table.Sorted) (assets : α → Owned) (name : String)
    (value : α) :
    (table.put name value).total assets = assets value + (table.erase name).total assets := by
  rw [total, ((sorted.put_perm name value).map fun entry => assets entry.2).sum_eq, List.map_cons,
    List.sum_cons]
  rfl

theorem Sorted.total_of_find? (sorted : table.Sorted) (assets : α → Owned)
    (found : table.find? name = some value) :
    table.total assets = assets value + (table.erase name).total assets := by
  rw [total, ((sorted.perm_of_find? found).map fun entry => assets entry.2).sum_eq, List.map_cons,
    List.sum_cons]
  rfl

theorem total_of_missing (assets : α → Owned) (missing : table.find? name = none) :
    table.total assets = (table.erase name).total assets := by
  rw [total, total, erase_of_find?_none missing]

theorem mem_put {other : α}
    (member : other ∈ (table.put name value).values) : other = value ∨ other ∈ table.values := by
  obtain ⟨entry, listed, rfl⟩ := List.mem_map.mp member
  rcases mem_putInto listed with rfl | former
  · exact .inl rfl
  · exact .inr (List.mem_map_of_mem former)

theorem mem_erase {other : α} (member : other ∈ (table.erase name).values) :
    other ∈ table.values := by
  obtain ⟨entry, listed, rfl⟩ := List.mem_map.mp member
  exact List.mem_map_of_mem (List.mem_of_mem_filter listed)

end NameTable

namespace Client

def Embedder.sessions : Embedder → SessionCache BatchSession
  | .dense embedder => embedder.sessions
  | .sparse embedder => embedder.sessions

def HeldEmbedder.assets (held : HeldEmbedder) : Owned :=
  cachedAssets held.embedder.sessions

def tensorAssets (held : AnyTensor) : Owned :=
  held.tensor.assets

namespace Holdings

def assets (holdings : Holdings) : Owned :=
  holdings.environment.assets + (holdings.runtimes.total reference +
    (holdings.tensors.total tensorAssets + (holdings.sessions.total Session.assets +
      holdings.embedders.total HeldEmbedder.assets)))

/-- The runtime of that name, or the loaded one where no name is given. -/
def runtimeFor (holdings : Holdings) (name : Option String) : Option Runtime :=
  match name with
  | some name => holdings.runtime? name
  | none => holdings.environment.runtime

/-- What is held is as it was handed out. -/
structure Kept (holdings : Holdings) : Prop where
  environment : holdings.environment.Counted
  runtimes : holdings.runtimes.Sorted
  tensors : holdings.tensors.Sorted
  whole : ∀ held ∈ holdings.tensors.values, held.tensor.Whole
  sessions : holdings.sessions.Sorted
  embedders : holdings.embedders.Sorted
  cached : ∀ held ∈ holdings.embedders.values, SessionsKept held.embedder.sessions

/-- The client owns everything that is live. -/
structure Settled [Lineage] (holdings : Holdings) (engine : Engine) : Prop where
  kept : holdings.Kept
  balanced : engine.Balanced holdings.assets

end Holdings

/-- The runtime through which an operation makes what it makes. -/
def Operation.runtime? (operation : Operation) (holdings : Holdings) : Option Runtime :=
  match operation with
  | .createTensor _ _ _ _ runtime => holdings.runtimeFor runtime
  | .createSession _ _ _ _ _ _ runtime => holdings.runtimeFor runtime
  | .embed .. | .query .. => holdings.environment.runtime
  | _ => none

/-- One of the tables of a client. -/
structure Slot (α : Type) where
  table : Holdings → NameTable α
  replace : Holdings → NameTable α → Holdings
  assets : α → Owned
  good : α → Prop
  /-- What the client owns otherwise. -/
  rest : Holdings → Owned
  assets_replace : ∀ holdings table,
    (replace holdings table).assets = table.total assets + rest holdings
  replace_table : ∀ holdings, replace holdings (table holdings) = holdings
  sorted : ∀ {holdings : Holdings}, holdings.Kept → (table holdings).Sorted
  whole : ∀ {holdings : Holdings}, holdings.Kept → ∀ value ∈ (table holdings).values, good value
  kept : ∀ {holdings : Holdings} {table}, holdings.Kept → table.Sorted →
    (∀ value ∈ table.values, good value) → (replace holdings table).Kept

namespace Slot

variable {α : Type} (slot : Slot α) {holdings : Holdings} {name : String} {value : α}

/-- The holdings with something put under a name. -/
def put (holdings : Holdings) (name : String) (value : α) : Holdings :=
  slot.replace holdings ((slot.table holdings).put name value)

/-- The holdings without what is held under a name. -/
def erase (holdings : Holdings) (name : String) : Holdings :=
  slot.replace holdings ((slot.table holdings).erase name)

theorem kept_put (kept : holdings.Kept) (good : slot.good value) (name : String) :
    (slot.put holdings name value).Kept := by
  refine slot.kept kept ((slot.sorted kept).put name value) fun other member => ?_
  rcases NameTable.mem_put member with rfl | former
  · exact good
  · exact slot.whole kept other former

theorem kept_erase (kept : holdings.Kept) (name : String) : (slot.erase holdings name).Kept :=
  slot.kept kept ((slot.sorted kept).erase name) fun other member =>
    slot.whole kept other (NameTable.mem_erase member)

theorem assets_put (kept : holdings.Kept) (name : String) (value : α) :
    (slot.put holdings name value).assets =
      slot.assets value + (slot.erase holdings name).assets := by
  rw [put, erase, slot.assets_replace, slot.assets_replace, (slot.sorted kept).total_put, add_assoc]

theorem assets_of_find? (kept : holdings.Kept)
    (found : (slot.table holdings).find? name = some value) :
    holdings.assets = slot.assets value + (slot.erase holdings name).assets := by
  have whole := slot.assets_replace holdings (slot.table holdings)
  rw [slot.replace_table, (slot.sorted kept).total_of_find? slot.assets found, add_assoc] at whole
  rw [whole, erase, slot.assets_replace]

theorem assets_of_missing (missing : (slot.table holdings).find? name = none) :
    holdings.assets = (slot.erase holdings name).assets := by
  have whole := slot.assets_replace holdings (slot.table holdings)
  rw [slot.replace_table, NameTable.total_of_missing slot.assets missing] at whole
  rw [whole, erase, slot.assets_replace]

theorem good_of_find? (kept : holdings.Kept)
    (found : (slot.table holdings).find? name = some value) : slot.good value :=
  slot.whole kept value (NameTable.mem_values_of_find? found)

end Slot

def runtimeSlot : Slot Runtime where
  table := Holdings.runtimes
  replace holdings runtimes := { holdings with runtimes }
  assets := reference
  good _ := True
  rest holdings := holdings.environment.assets + (holdings.tensors.total tensorAssets +
    (holdings.sessions.total Session.assets + holdings.embedders.total HeldEmbedder.assets))
  assets_replace _ _ := add_left_comm _ _ _
  replace_table _ := rfl
  sorted kept := kept.runtimes
  whole _ _ _ := trivial
  kept kept sorted _ := { kept with runtimes := sorted }

def tensorSlot : Slot AnyTensor where
  table := Holdings.tensors
  replace holdings tensors := { holdings with tensors }
  assets := tensorAssets
  good held := held.tensor.Whole
  rest holdings := holdings.environment.assets + (holdings.runtimes.total reference +
    (holdings.sessions.total Session.assets + holdings.embedders.total HeldEmbedder.assets))
  assets_replace holdings tensors := by
    simp only [Holdings.assets]
    abel
  replace_table _ := rfl
  sorted kept := kept.tensors
  whole kept := kept.whole
  kept kept sorted whole := { kept with tensors := sorted, whole }

def sessionSlot : Slot Session where
  table := Holdings.sessions
  replace holdings sessions := { holdings with sessions }
  assets := Session.assets
  good _ := True
  rest holdings := holdings.environment.assets + (holdings.runtimes.total reference +
    (holdings.tensors.total tensorAssets + holdings.embedders.total HeldEmbedder.assets))
  assets_replace holdings sessions := by
    simp only [Holdings.assets]
    abel
  replace_table _ := rfl
  sorted kept := kept.sessions
  whole _ _ _ := trivial
  kept kept sorted _ := { kept with sessions := sorted }

def embedderSlot : Slot HeldEmbedder where
  table := Holdings.embedders
  replace holdings embedders := { holdings with embedders }
  assets := HeldEmbedder.assets
  good held := SessionsKept held.embedder.sessions
  rest holdings := holdings.environment.assets + (holdings.runtimes.total reference +
    (holdings.tensors.total tensorAssets + holdings.sessions.total Session.assets))
  assets_replace holdings embedders := by
    simp only [Holdings.assets]
    abel
  replace_table _ := rfl
  sorted kept := kept.embedders
  whole kept := kept.cached
  kept kept sorted cached := { kept with embedders := sorted, cached }

namespace Task

/-- How a task goes on with what an attempt handed over. -/
def settle {ε α : Type} (wrap : ε → ClientError) : Except ε α → Task α
  | .ok value => pure value
  | .error error => throw (wrap error)

theorem run_ofAction {ε α : Type} {wrap : ε → ClientError} {action : Action ε α}
    (holdings : Holdings) (engine : Engine) :
    (Task.ofAction wrap action).run.run holdings engine =
      match action engine with
      | .ok value engine => ((.ok value, holdings), engine)
      | .error error engine => ((.error (wrap error), holdings), engine) := by
  have handed : (Task.ofAction wrap action).run.run holdings engine =
      (settle wrap (attempt action engine).1).run.run holdings (attempt action engine).2 := rfl
  rw [handed, attempt]
  cases action engine <;> rfl

theorem run_tryCatch {α : Type} {task : Task α} {recover : ClientError → Task α}
    {holdings after : Holdings} {engine last : Engine} {result : Except ClientError α}
    (ended : task.run.run holdings engine = ((result, after), last)) :
    (tryCatch task recover).run.run holdings engine =
      match result with
      | .ok value => ((.ok value, after), last)
      | .error error => (recover error).run.run after last := by
  cases result with
  | ok value =>
      change (ExceptT.tryCatch task recover).run.run holdings engine = ((.ok value, after), last)
      simp only [ExceptT.tryCatch, ExceptT.mk, ExceptT.run, StateT.run, bind, StateT.bind] at ended ⊢
      rw [ended]
      rfl
  | error error =>
      change (ExceptT.tryCatch task recover).run.run holdings engine =
        (recover error).run.run after last
      simp only [ExceptT.tryCatch, ExceptT.mk, ExceptT.run, StateT.run, bind, StateT.bind] at ended ⊢
      rw [ended]

variable [Lineage] {α β : Type} {before : Holdings → Engine → Prop}

/-- What a task that starts under a condition leads to.  A failed task leaves everything in the
client's hands. -/
def Yields (before : Holdings → Engine → Prop) (task : Task α)
    (after : α → Holdings → Engine → Prop) : Prop :=
  ∀ holdings engine, before holdings engine →
    match task.run.run holdings engine with
    | ((.ok value, holdings), engine) => after value holdings engine
    | ((.error _, holdings), engine) => holdings.Settled engine

namespace Yields

variable {after between : α → Holdings → Engine → Prop} {last : β → Holdings → Engine → Prop}
variable {task : Task α} {next : α → Task β}

theorem ofPure {value : α} (holds : ∀ holdings engine, before holdings engine →
    after value holdings engine) : Yields before (pure value) after := holds

theorem ofThrow {error : ClientError}
    (settled : ∀ holdings engine, before holdings engine → holdings.Settled engine) :
    Yields before (throw error) after := settled

theorem bind (first : Yields before task between)
    (rest : ∀ value, Yields (between value) (next value) last) :
    Yields before (task >>= next) last := by
  intro holdings engine holds
  have reached := first holdings engine holds
  have continued : (task >>= next).run.run holdings engine =
      (ExceptT.bindCont next (task.run.run holdings engine).1.1).run
        (task.run.run holdings engine).1.2 (task.run.run holdings engine).2 := rfl
  rw [continued]
  cases ended : task.run.run holdings engine with
  | mk outcome engine =>
      obtain ⟨result, holdings⟩ := outcome
      rw [ended] at reached
      cases result with
      | ok value => exact rest value holdings engine reached
      | error error => exact reached

theorem ofGet : Yields before get fun value holdings engine =>
    value = holdings ∧ before holdings engine :=
  fun _ _ holds => ⟨rfl, holds⟩

theorem ofModify {change : Holdings → Holdings} {after : Unit → Holdings → Engine → Prop}
    (holds : ∀ holdings engine, before holdings engine → after () (change holdings) engine) :
    Yields before (modify change) after := holds

theorem ofStep {step : Step α} (ensured : ∀ holdings engine, before holdings engine →
    after (step engine).1 holdings (step engine).2) :
    Yields before (liftM step : Task α) after := ensured

theorem weaken (yielded : Yields before task between)
    (weaker : ∀ value holdings engine, between value holdings engine →
      after value holdings engine) : Yields before task after := by
  intro holdings engine holds
  have reached := yielded holdings engine holds
  cases ended : task.run.run holdings engine with
  | mk outcome engine =>
      obtain ⟨result, holdings⟩ := outcome
      rw [ended] at reached
      cases result with
      | ok value => exact weaker value holdings engine reached
      | error error => exact reached

theorem strengthen {before' : Holdings → Engine → Prop} (yielded : Yields before task after)
    (stronger : ∀ holdings engine, before' holdings engine → before holdings engine) :
    Yields before' task after :=
  fun holdings engine holds => yielded holdings engine (stronger holdings engine holds)

/-- A fact that a condition implies can be used for the task. -/
theorem assuming {fact : Prop} (known : ∀ holdings engine, before holdings engine → fact)
    (yielded : fact → Yields before task after) : Yields before task after :=
  fun holdings engine holds => yielded (known holdings engine holds) holdings engine holds

theorem ofTryCatch {recover : ClientError → Task α} (tried : Yields before task after)
    (recovers : ∀ error, Yields Holdings.Settled (recover error) after) :
    Yields before (tryCatch task recover) after := by
  intro holdings engine holds
  have reached := tried holdings engine holds
  cases ended : task.run.run holdings engine with
  | mk outcome engine =>
      obtain ⟨result, holdings⟩ := outcome
      rw [run_tryCatch ended]
      rw [ended] at reached
      cases result with
      | ok value => exact reached
      | error error => exact recovers error holdings engine reached

/-- What is looked up without asking the library. -/
theorem ofRequire {missing : ClientError} (found : Option α)
    (settled : ∀ holdings engine, before holdings engine → holdings.Settled engine) :
    Yields before (Task.require missing found) fun value holdings engine =>
      found = some value ∧ before holdings engine := by
  cases found with
  | some value => exact fun _ _ holds => ⟨rfl, holds⟩
  | none => exact settled

theorem ofExcept {ε : Type} {wrap : ε → ClientError} (result : Except ε α)
    (settled : ∀ holdings engine, before holdings engine → holdings.Settled engine) :
    Yields before (Task.ofExcept wrap result) fun value holdings engine =>
      result = .ok value ∧ before holdings engine := by
  cases result with
  | ok value => exact fun _ _ holds => ⟨rfl, holds⟩
  | error error => exact settled

theorem ofAction {ε : Type} {wrap : ε → ClientError} {action : Action ε α}
    (ends : ∀ holdings engine, before holdings engine →
      EndsIn (fun value engine => after value holdings engine)
        (fun _ engine => holdings.Settled engine) (action engine)) :
    Yields before (Task.ofAction wrap action) after := by
  intro holdings engine holds
  have reached := ends holdings engine holds
  rw [run_ofAction]
  cases ended : action engine <;> rw [ended] at reached <;> exact reached

end Yields

end Task

end Client

end TextVectors

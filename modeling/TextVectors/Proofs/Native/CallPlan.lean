import TextVectors.Inference.Session
import TextVectors.Proofs.Native.Course

namespace TextVectors

/-! Sessions are created by a fixed plan of calls.

What can be said against a request is said before the library is asked anything.  Then the calls
follow a plan that the request determines, up to the first one that is denied.
-/

open Inference

variable {ε α β : Type}

namespace Inference

/-- A call that failed, or that did not hand out what it should have. -/
def Event.Denied : Event → Prop
  | .called _ (.failed _) => True
  | .called _ .null => True
  | _ => False

/-- The call that an event is, if any. -/
def Event.call? : Event → Option Call
  | .called call _ => some call
  | _ => none

namespace History

/-- The calls of a history in their order. -/
def calls (history : History) : List Call :=
  (history.filterMap Event.call?).reverse

def Granted (history : History) : Prop :=
  ∀ event ∈ history, ¬ event.Denied

/-- A history in which no objects of a kind come or go. -/
def Without (kind : ObjectKind) (history : History) : Prop :=
  ∀ handle, handle ∈ history.created ∨ handle ∈ history.released → handle.kind ≠ kind

variable {newer older : History} {kind : ObjectKind}

@[simp] theorem calls_append (newer older : History) :
    calls (newer ++ older) = older.calls ++ newer.calls := by
  simp [calls]

theorem granted_append : Granted (newer ++ older) ↔ newer.Granted ∧ older.Granted :=
  List.forall_mem_append

theorem Without.append (last : newer.Without kind) (first : older.Without kind) :
    Without kind (newer ++ older) := by
  intro handle member
  rw [created_append, released_append, List.mem_append, List.mem_append] at member
  rcases member with (made | made) | (gone | gone)
  · exact last handle (.inl made)
  · exact first handle (.inl made)
  · exact last handle (.inr gone)
  · exact first handle (.inr gone)

end History

end Inference

open History

/-- What an operation asked of the library, of all that it had planned.  It ended well exactly when
nothing was denied to it, and then the plan was carried out. -/
structure Planned (plan : List Call) (before after : Engine) (newer : History) (well : Prop) :
    Prop where
  history : after.history = newer ++ before.history
  calls : newer.calls <+: plan
  whole : well → newer.calls = plan
  granted : newer.Granted ↔ well
  others : newer.Without .sessionOptions

/-- An operation that asks as planned, whatever the library did before and does now. -/
def Asks (plan : List Call) (well : α → Prop) (action : Action ε α) : Prop :=
  ∀ engine, ∃ newer,
    EndsIn (fun value after => Planned plan engine after newer (well value))
      (fun _ after => Planned plan engine after newer False) (action engine)

namespace Planned

variable {plan more : List Call} {before middle after : Engine} {newer further : History}
variable {well : Prop}

theorem nothing (same : after.history = before.history) : Planned [] before after [] True where
  history := same
  calls := List.nil_prefix
  whole _ := rfl
  granted := by simp [Granted]
  others := by simp [Without, History.created, History.released]

theorem of_iff {other : Prop} (planned : Planned plan before after newer well)
    (same : well ↔ other) : Planned plan before after newer other :=
  propext same ▸ planned

theorem trans (first : Planned plan before middle newer True)
    (second : Planned more middle after further well) :
    Planned (plan ++ more) before after (further ++ newer) well where
  history := by
    rw [second.history, first.history, List.append_assoc]
  calls := by
    rw [calls_append, first.whole trivial]
    exact (List.prefix_append_right_inj plan).mpr second.calls
  whole done := by
    rw [calls_append, first.whole trivial, second.whole done]
  granted := by
    rw [granted_append, second.granted, first.granted, and_true]
  others := second.others.append first.others

/-- What is not begun is no longer asked. -/
theorem stopped (first : Planned plan before after newer False) (more : List Call) :
    Planned (plan ++ more) before after newer False where
  history := first.history
  calls := first.calls.trans (List.prefix_append plan more)
  whole := False.elim
  granted := first.granted
  others := first.others

end Planned

namespace Asks

variable {plan more : List Call} {well well' : α → Prop} {last : β → Prop}
variable {action : Action ε α} {next : α → Action ε β}

theorem ofPure (value : α) : Asks [] (fun _ => True) (pure value : Action ε α) :=
  fun _ => ⟨[], .nothing rfl⟩

theorem bind (first : Asks plan (fun _ => True) action)
    (rest : ∀ value, Asks more last (next value)) : Asks (plan ++ more) last (action >>= next) := by
  intro engine
  obtain ⟨newer, reached⟩ := first engine
  change ∃ newer, EndsIn _ _ (EStateM.bind action next engine)
  unfold EStateM.bind
  cases ended : action engine with
  | error error middle =>
      rw [ended] at reached
      exact ⟨newer, reached.stopped more⟩
  | ok value middle =>
      rw [ended] at reached
      obtain ⟨further, reachedLast⟩ := rest value middle
      refine ⟨further ++ newer, ?_⟩
      dsimp only
      cases endedLast : next value middle <;> rw [endedLast] at reachedLast
      all_goals exact reached.trans reachedLast

/-- A call that fails makes and releases a status only. -/
theorem without_failing (call : Call) {status : Handle} (number : status.kind = .status) :
    Without .sessionOptions (failing call status) := by
  intro handle member
  have same : status = handle ∨ handle = status := by
    simpa [failing, History.created, History.released, Event.created?, Event.released?]
      using member
  rcases same with rfl | rfl <;> simp [number]

theorem planned_failing (call : Call) {before after : Engine} {status : Handle}
    (number : status.kind = .status)
    (history : after.history = failing call status ++ before.history) :
    Planned [call] before after (failing call status) False where
  history := history
  calls := List.prefix_rfl
  whole := False.elim
  granted := by simp [Granted, failing, Event.Denied]
  others := without_failing call number

/-- A call that only sets something. -/
theorem set {call : Call} (nothing : call.creates = none) :
    Asks [call] (fun _ => True) (Engine.request call) := by
  intro engine
  rcases Engine.request_cases call engine with ⟨code, text, answered⟩ | ⟨outcome, -, plain, done⟩
  · rw [Engine.request_failure answered]
    exact ⟨_, planned_failing call rfl rfl⟩
  · rw [done, plain nothing]
    refine ⟨[.called call .done], rfl, List.prefix_rfl, fun _ => rfl, ?_, ?_⟩
    · simp [Granted, Event.Denied]
    · simp [Without, History.created, History.released, Event.created?, Event.released?]

/-- A call that hands out an object, if it is not denied. -/
theorem make {call : Call} {kind : ObjectKind} (creating : call.creates = some kind)
    (other : kind ≠ .sessionOptions) :
    Asks [call] (fun made => made.isSome) (Engine.request call) := by
  intro engine
  cases answered : engine.nextAnswer call.function with
  | failure code text =>
      rw [Engine.request_failure answered]
      exact ⟨_, planned_failing call rfl rfl⟩
  | null =>
      rw [Engine.request_null answered creating]
      refine ⟨[.called call .null], rfl, List.prefix_rfl, nofun, ?_, ?_⟩
      · simp [Granted, Event.Denied]
      · simp [Without, History.created, History.released, Event.created?, Event.released?]
  | success =>
      rw [Engine.request_created answered creating]
      refine ⟨[.called call (.created (engine.history.fresh kind))], rfl, List.prefix_rfl,
        fun _ => rfl, ?_, ?_⟩
      · simp [Granted, Event.Denied]
      · simp [Without, History.created, History.released, Event.created?, Event.released?,
          History.fresh, other]

end Asks

namespace Inference

namespace SessionRequest

/-- Nothing can be said against a request. -/
structure Acceptable (request : SessionRequest) (modelPresent : Bool) : Prop where
  path : request.modelPath ≠ ""
  present : modelPresent
  inputsNamed : request.inputNames ≠ []
  outputsNamed : request.outputNames ≠ []
  inputCount : request.inputNames.length = request.inputs.length
  outputCount : request.outputNames.length = request.outputs.length
  live : ∀ value ∈ request.inputs ++ request.outputs, value ≠ none
  names : ∀ name ∈ request.inputNames ++ request.outputNames,
    name ≠ "" ∧ Char.ofNat 0 ∉ name.toList

/-- What a request binds on either side. -/
structure Binds (request : SessionRequest) (inputs outputs : List Binding) : Prop where
  inputs : ∃ handles, request.inputs = handles.map some ∧
    request.inputNames.length = handles.length ∧
    inputs = List.zipWith Binding.mk request.inputNames handles
  outputs : ∃ handles, request.outputs = handles.map some ∧
    request.outputNames.length = handles.length ∧
    outputs = List.zipWith Binding.mk request.outputNames handles

variable {request : SessionRequest} {present : Bool} {names : List String}
variable {values : List (Option Handle)}

theorem checkNames_ok_iff :
    checkNames names = .ok () ↔ ∀ name ∈ names, name ≠ "" ∧ Char.ofNat 0 ∉ name.toList := by
  induction names with
  | nil => simp [checkNames]
  | cons name rest ih =>
      rw [checkNames, List.forall_mem_cons, ← ih]
      by_cases empty : name = ""
      · simp [empty]
      · by_cases terminated : Char.ofNat 0 ∈ name.toList
        · simp [empty, terminated]
        · simp [empty, terminated]

theorem liveHandles_ok_iff (side : Side) (position : Nat) (handles : List Handle) :
    liveHandles side position values = .ok handles ↔ values = handles.map some := by
  induction values generalizing position handles with
  | nil => cases handles <;> simp [liveHandles]
  | cons value rest ih =>
      cases value with
      | none => cases handles <;> simp [liveHandles]
      | some handle =>
          rw [liveHandles]
          cases checked : liveHandles side (position + 1) rest with
          | error fault =>
              have missing (others : List Handle) : rest ≠ others.map some := by
                intro same
                rw [(ih (position + 1) others).mpr same] at checked
                cases checked
              cases handles with
              | nil => simp [Except.map]
              | cons first handles => simp [Except.map, missing]
          | ok others =>
              have same := (ih (position + 1) others).mp checked
              subst same
              cases handles with
              | nil => simp [Except.map]
              | cons first handles =>
                  simp [Except.map, List.map_inj_right fun _ _ => Option.some.inj]

theorem live_iff : (∀ value ∈ values, value ≠ none) ↔ ∃ handles : List Handle,
    values = handles.map some := by
  constructor
  · intro live
    induction values with
    | nil => exact ⟨[], rfl⟩
    | cons value rest ih =>
        obtain ⟨first, others⟩ := List.forall_mem_cons.mp live
        obtain ⟨handle, rfl⟩ := Option.ne_none_iff_exists'.mp first
        obtain ⟨handles, rfl⟩ := ih others
        exact ⟨handle :: handles, rfl⟩
  · rintro ⟨handles, rfl⟩ value member
    obtain ⟨handle, -, rfl⟩ := List.mem_map.mp member
    exact Option.some_ne_none handle

/-- A request is granted its bindings exactly when nothing can be said against it. -/
theorem bindings_ok {inputs outputs : List Binding}
    (bound : request.bindings present = .ok (inputs, outputs)) :
    request.Acceptable present ∧ request.Binds inputs outputs := by
  unfold bindings at bound
  obtain ⟨path, bound⟩ := ok_of_guard bound
  obtain ⟨found, bound⟩ := ok_of_guard bound
  obtain ⟨named, bound⟩ := ok_of_guard bound
  obtain ⟨inputCount, bound⟩ := ok_of_guard bound
  obtain ⟨outputCount, bound⟩ := ok_of_guard bound
  obtain ⟨ins, insLive, bound⟩ := ok_of_bind bound
  obtain ⟨outs, outsLive, bound⟩ := ok_of_bind bound
  obtain ⟨_, insNamed, bound⟩ := ok_of_bind bound
  obtain ⟨_, outsNamed, bound⟩ := ok_of_bind bound
  cases bound
  have insHeld := (liveHandles_ok_iff .input 0 ins).mp (ok_of_mapError insLive)
  have outsHeld := (liveHandles_ok_iff .output 0 outs).mp (ok_of_mapError outsLive)
  simp only [Bool.or_eq_true, List.isEmpty_iff, not_or] at named
  simp only [ne_eq, Decidable.not_not] at inputCount outputCount
  constructor
  · refine ⟨path, by simpa using found, named.1, named.2, inputCount, outputCount, ?_, ?_⟩
    · exact List.forall_mem_append.mpr ⟨live_iff.mpr ⟨ins, insHeld⟩, live_iff.mpr ⟨outs, outsHeld⟩⟩
    · exact List.forall_mem_append.mpr
        ⟨checkNames_ok_iff.mp (ok_of_mapError insNamed),
          checkNames_ok_iff.mp (ok_of_mapError outsNamed)⟩
  · refine ⟨⟨ins, insHeld, ?_, rfl⟩, ⟨outs, outsHeld, ?_, rfl⟩⟩
    · rw [inputCount, insHeld, List.length_map]
    · rw [outputCount, outsHeld, List.length_map]

theorem Acceptable.bindings (acceptable : request.Acceptable present) :
    ∃ inputs outputs, request.bindings present = .ok (inputs, outputs) := by
  obtain ⟨path, found, inputsNamed, outputsNamed, inputCount, outputCount, live, names⟩ :=
    acceptable
  obtain ⟨inputsLive, outputsLive⟩ := List.forall_mem_append.mp live
  obtain ⟨inputNames, outputNames⟩ := List.forall_mem_append.mp names
  obtain ⟨ins, insHeld⟩ := live_iff.mp inputsLive
  obtain ⟨outs, outsHeld⟩ := live_iff.mp outputsLive
  have named : ¬ (request.inputNames.isEmpty || request.outputNames.isEmpty) = true := by
    simp [inputsNamed, outputsNamed]
  refine ⟨List.zipWith Binding.mk request.inputNames ins,
    List.zipWith Binding.mk request.outputNames outs, ?_⟩
  unfold SessionRequest.bindings
  rw [if_neg path, if_neg (by simp [found]), if_neg named, if_neg (not_not_intro inputCount),
    if_neg (not_not_intro outputCount), (liveHandles_ok_iff .input 0 ins).mpr insHeld,
    (liveHandles_ok_iff .output 0 outs).mpr outsHeld, checkNames_ok_iff.mpr inputNames,
    checkNames_ok_iff.mpr outputNames]
  rfl

end SessionRequest

namespace Session

variable {runtime : Runtime} {request : SessionRequest} {host : Host} {options : SessionOptions}

/-- The calls that set options.  Threads are only set where their number is given. -/
def settings (native : Handle) (options : SessionOptions) : List Call :=
  let intra := options.intraOpThreads
  let inter := options.interOpThreads
  .setOptimizationLevel native options.optimizationLevel.number ::
    ((if intra > 0 then [.setIntraOpThreads native intra] else []) ++
      if inter > 0 then [.setInterOpThreads native inter] else [])

/-- All calls that it takes to create a session. -/
def plan (runtime : Runtime) (modelPath : String) (native : Handle) (options : SessionOptions) :
    List Call :=
  .createSessionOptions ::
    (settings native options ++ [.createSession runtime.environment modelPath native])

theorem setOptions_asks (native : Handle) (options : SessionOptions) :
    Asks (settings native options) (fun _ => True) (setOptions native options) := by
  have inter (count : Nat) :
      Asks (if count > 0 then [.setInterOpThreads native count] else []) (fun _ => True) (do
        if count > 0 then
          let _ ← Engine.request (.setInterOpThreads native count)) := by
    split
    · exact (Asks.set rfl).bind fun _ => .ofPure ()
    · exact .ofPure ()
  unfold setOptions settings
  refine (Asks.set rfl).bind fun _ => ?_
  dsimp only
  split
  · exact (Asks.set rfl).bind fun _ => inter _
  · exact inter _

theorem load_asks (runtime : Runtime) (modelPath : String) (native : Handle)
    (options : SessionOptions) :
    Asks (settings native options ++ [.createSession runtime.environment modelPath native])
      (fun made => made.isSome) (load runtime modelPath native options) :=
  (setOptions_asks native options).bind fun _ => .make rfl (by decide)

/-- How creating a session ends that nothing can be said against: the calls are the plan or its
beginning, a session comes out exactly when none of them is denied, and native options that came
into being were released again once. -/
structure Attempted (runtime : Runtime) (modelPath : String) (options : SessionOptions)
    (before after : Engine) (created : Prop) (newer : History) : Prop where
  history : after.history = newer ++ before.history
  begun : newer.calls.head? = some .createSessionOptions
  calls : newer.calls <+: plan runtime modelPath (before.history.fresh .sessionOptions) options
  whole : created →
    newer.calls = plan runtime modelPath (before.history.fresh .sessionOptions) options
  granted : created ↔ newer.Granted
  options : ∀ native ∈ newer.created, native.kind = .sessionOptions →
    newer.created.count native = 1 ∧ newer.released.count native = 1

/-- Without native options nothing else is asked. -/
theorem attempted_without {modelPath : String} {engine after : Engine} {newer : History}
    (history : after.history = newer ++ engine.history)
    (calls : newer.calls = [.createSessionOptions]) (denied : ¬ newer.Granted)
    (none : newer.Without .sessionOptions) :
    Attempted runtime modelPath options engine after False newer where
  history := history
  begun := by rw [calls]; rfl
  calls := by rw [calls]; exact ⟨_, rfl⟩
  whole := False.elim
  granted := iff_of_false id denied
  options native made kind := absurd kind (none native (.inl made))

/-- With native options the session is loaded, and then they are released. -/
theorem attempted_of_load {modelPath : String} {engine loaded after : Engine} {newer : History}
    {native : Handle} {well : Prop} (fresh : native = engine.history.fresh .sessionOptions)
    (planned : Planned
      (settings native options ++ [.createSession runtime.environment modelPath native])
      (engine.recorded (.called .createSessionOptions (.created native))) loaded newer well)
    (history : after.history = .released native :: loaded.history) :
    Attempted runtime modelPath options engine after well
      ([.released native] ++ newer ++ [.called .createSessionOptions (.created native)]) := by
  let whole : History :=
    [.released native] ++ newer ++ [.called .createSessionOptions (.created native)]
  have kind : native.kind = .sessionOptions := by rw [fresh]; rfl
  have calls : whole.calls = .createSessionOptions :: newer.calls := by
    rw [calls_append, calls_append]
    exact congrArg (Call.createSessionOptions :: ·) (List.append_nil newer.calls)
  have created : whole.created = newer.created ++ [native] := by
    rw [created_append, created_append]
    rfl
  have released : whole.released = native :: newer.released := by
    rw [released_append, released_append, List.append_assoc]
    exact congrArg (native :: ·) (List.append_nil _)
  have unmade : native ∉ newer.created := fun member => planned.others native (.inl member) kind
  have unreleased : native ∉ newer.released := fun member =>
    planned.others native (.inr member) kind
  change Attempted runtime modelPath options engine after well whole
  refine ⟨?_, by rw [calls]; rfl, ?_, ?_, ?_, ?_⟩
  · simp [whole, history, planned.history, Engine.recorded]
  · rw [calls, ← fresh]
    exact (List.prefix_cons_inj _).mpr planned.calls
  · intro done
    rw [calls, ← fresh, planned.whole done]
    rfl
  · rw [granted_append, granted_append, planned.granted]
    simp [Granted, Event.Denied]
  · intro other made options
    rw [created] at made
    have same : other = native := by
      rcases List.mem_append.mp made with loading | first
      · exact absurd options (planned.others other (.inl loading))
      · exact List.mem_singleton.mp first
    rw [same, created, released]
    simp [List.count_eq_zero.mpr unmade, List.count_eq_zero.mpr unreleased]

theorem create_unacceptable (refused : ¬ request.Acceptable (host.files.present request.modelPath))
    (engine : Engine) :
    ∃ error, create host runtime request options engine = .error error engine := by
  cases bound : request.bindings (host.files.present request.modelPath) with
  | ok found => exact absurd (SessionRequest.bindings_ok bound).1 refused
  | error error =>
      refine ⟨error, ?_⟩
      unfold create
      rw [bound]
      rfl

/-- A session is created as planned, whatever the library does. -/
theorem create_attempted (acceptable : request.Acceptable (host.files.present request.modelPath))
    (engine : Engine) :
    ∃ newer, EndsIn
      (fun session after => Attempted runtime request.modelPath options engine after True newer ∧
        session.handle.isSome ∧ request.Binds session.inputs session.outputs)
      (fun _ after => Attempted runtime request.modelPath options engine after False newer)
      (create host runtime request options engine) := by
  obtain ⟨inputs, outputs, bound⟩ := acceptable.bindings
  have binds := (SessionRequest.bindings_ok bound).2
  unfold create
  rw [bound]
  change ∃ newer, EndsIn _ _ (EStateM.bind (Engine.request .createSessionOptions) _ engine)
  unfold EStateM.bind
  cases answered : engine.nextAnswer .createSessionOptions with
  | failure code text =>
      rw [Engine.request_failure answered]
      refine ⟨failing .createSessionOptions _, attempted_without rfl rfl ?_ ?_⟩
      · simp [Granted, failing, Event.Denied]
      · exact Asks.without_failing .createSessionOptions rfl
  | null =>
      rw [Engine.request_null answered rfl]
      refine ⟨[.called .createSessionOptions .null], attempted_without rfl rfl ?_ ?_⟩
      · simp [Granted, Event.Denied]
      · simp [Without, History.created, History.released, Event.created?, Event.released?]
  | success =>
      rw [Engine.request_created answered rfl]
      generalize fresh : engine.history.fresh .sessionOptions = native
      obtain ⟨newer, reached⟩ := load_asks runtime request.modelPath native options
        (engine.recorded (.called .createSessionOptions (.created native)))
      refine ⟨[.released native] ++ newer ++
        [.called .createSessionOptions (.created native)], ?_⟩
      dsimp only
      rw [Course.step_bind_apply, attempt]
      cases ended : load runtime request.modelPath native options
          (engine.recorded (.called .createSessionOptions (.created native))) with
      | error error loaded =>
          rw [ended] at reached
          exact attempted_of_load fresh.symm reached rfl
      | ok made loaded =>
          rw [ended] at reached
          cases made with
          | none => exact attempted_of_load fresh.symm (Planned.of_iff reached (by simp)) rfl
          | some handle =>
              refine ⟨?_, rfl, binds⟩
              exact attempted_of_load fresh.symm (Planned.of_iff reached (by simp)) rfl

end Session

end Inference

end TextVectors

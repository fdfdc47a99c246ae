import Mathlib.Data.List.Forall2
import TextVectors.Proofs.Native.Assembly
import TextVectors.Proofs.Native.CallPlan
import TextVectors.Proofs.Embedding.Running
import TextVectors.Scripted.Host
import TextVectors.Scripted.Runtime

namespace TextVectors.Inference

/-! A session only ever runs on the values that it was created with, while all of them are live.

A session knows its values by their handles, and tensors live and end without it.  The library
numbers the values that it creates, so that no two of them ever have the same handle, and a handle
tells which tensor it belonged to even after that was destroyed.
-/

open History

/-- A session, with what it was asked to bind and the places of the tensors that it was given. -/
structure Seat where
  session : Session
  request : SessionRequest
  inputs : List Nat
  outputs : List Nat

/-- Tensors and sessions on one library.  A tensor keeps its place when it is destroyed. -/
structure Bench where
  engine : Engine
  tensors : List AnyTensor := []
  seats : List Seat := []

/-- What can happen to tensors and sessions. -/
inductive Deed where
  | makeTensor (runtime : Runtime) (element : ElementType) (shape : Shape)
      (cells : List element.Cell)
  | write (place position : Nat) (cell : (element : ElementType) → element.Cell)
  | destroyTensor (place : Nat)
  | makeSession (host : Host) (runtime : Runtime) (options : SessionOptions) (modelPath : String)
      (inputNames outputNames : List String) (inputs outputs : List Nat)
  | run (seat : Nat) (inputs outputs : List Nat)
  | destroySession (seat : Nat)
  /-- The library is used for something else, and may behave differently afterwards. -/
  | elsewhere (later : Engine)

def AnyTensor.value (held : AnyTensor) : Option Handle :=
  held.tensor.value

theorem Tensor.destroy_fst {element : ElementType} (tensor : Tensor element) (engine : Engine) :
    (tensor.destroy engine).1 = destroyed := by
  unfold destroy
  cases tensor.value with
  | none => rfl
  | some value => cases tensor.runtime <;> rfl

namespace Session

variable {session : Session} {inputs : List Operand} {outputs : List (Option Handle)}
variable {engine : Engine} {handle : Handle}

/-- A run is one call with what was bound, and goes well exactly when that is granted. -/
theorem run_called (live : session.handle = some handle)
    (inputsBound : inputs.map (·.value) = session.inputs.map (some ·.value))
    (outputsBound : outputs = session.outputs.map (some ·.value)) :
    ∃ newer : History,
      newer.calls =
        [.run handle (session.inputs.zip (inputs.map (·.contents))) session.outputs] ∧
      EndsIn (fun _ after => after.history = newer ++ engine.history ∧ newer.Granted)
        (fun _ after => after.history = newer ++ engine.history ∧ ¬ newer.Granted)
        (session.run inputs outputs engine) := by
  let call := Call.run handle (session.inputs.zip (inputs.map (·.contents))) session.outputs
  rw [run_bound live inputsBound outputsBound, Engine.requestRun_apply]
  rcases Engine.request_cases call engine with ⟨code, text, answered⟩ | ⟨outcome, -, plain, done⟩
  · rw [Engine.request_failure answered]
    refine ⟨failing call (engine.history.fresh .status), rfl, rfl, ?_⟩
    simp [Granted, failing, Event.Denied]
  · rw [done, plain rfl]
    refine ⟨[.called call .done], rfl, rfl, ?_⟩
    simp [Granted, Event.Denied]

/-- A run with anything else is refused, and then nothing is asked of the library and nothing is
written. -/
theorem run_refused (other : ¬ (session.handle ≠ none ∧
      inputs.map (·.value) = session.inputs.map (some ·.value) ∧
      outputs = session.outputs.map (some ·.value))) :
    ∃ error, session.run inputs outputs engine = .error (.refused error) engine := by
  unfold Session.run
  cases live : session.handle with
  | none => exact ⟨.destroyed "session", rfl⟩
  | some handle =>
      simp only [mapFailure, bind, EStateM.bind, ofExcept]
      cases first : checkSide .input (inputs.map (·.value)) session.inputs with
      | error fault => exact ⟨.invalidInput fault, rfl⟩
      | ok _ =>
          cases second : checkSide .output outputs session.outputs with
          | error fault => exact ⟨.invalidInput fault, rfl⟩
          | ok _ =>
              refine absurd ⟨?_, bound_of_checkSide first, bound_of_checkSide second⟩ other
              rw [live]
              exact Option.some_ne_none handle

end Session

namespace Bench

def tensor (bench : Bench) (place : Nat) : AnyTensor :=
  bench.tensors.getD place ⟨.float, .destroyed⟩

def value (bench : Bench) (place : Nat) : Option Handle :=
  (bench.tensor place).value

def operand (bench : Bench) (place : Nat) : Operand :=
  (bench.tensor place).tensor.operand

/-- What a session is asked to bind if it is given the tensors of these places. -/
def request (bench : Bench) (modelPath : String) (inputNames outputNames : List String)
    (inputs outputs : List Nat) : SessionRequest where
  modelPath := modelPath
  inputNames := inputNames
  outputNames := outputNames
  inputs := inputs.map bench.value
  outputs := outputs.map bench.value

def runSeat (bench : Bench) (seat : Seat) (inputs outputs : List Nat) :
    EStateM.Result FailedRun Engine RunEffect :=
  seat.session.run (inputs.map bench.operand) (outputs.map bench.value) bench.engine

/-- Lets tensors take what a run wrote, each at its position among the outputs. -/
def receive (effect : RunEffect) : Nat → List Nat → List AnyTensor → List AnyTensor
  | _, [], tensors => tensors
  | position, place :: rest, tensors =>
      receive effect (position + 1) rest (tensors.modify place fun held =>
        ⟨held.element, held.tensor.receive effect position⟩)

def makeTensor (bench : Bench) (runtime : Runtime) (element : ElementType) (shape : Shape)
    (cells : List element.Cell) : Bench :=
  match Tensor.create runtime shape cells bench.engine with
  | .ok tensor engine => { bench with engine, tensors := bench.tensors ++ [⟨element, tensor⟩] }
  | .error _ engine => { bench with engine }

def write (bench : Bench) (place position : Nat) (cell : (element : ElementType) → element.Cell) :
    Bench :=
  { bench with tensors := bench.tensors.modify place fun held =>
      ⟨held.element, held.tensor.set position (cell held.element)⟩ }

def destroyTensor (bench : Bench) (place : Nat) : Bench :=
  let held := bench.tensor place
  let ended := held.tensor.destroy bench.engine
  { bench with engine := ended.2, tensors := bench.tensors.set place ⟨held.element, ended.1⟩ }

def makeSession (bench : Bench) (host : Host) (runtime : Runtime) (options : SessionOptions)
    (request : SessionRequest) (inputs outputs : List Nat) : Bench :=
  match Session.create host runtime request options bench.engine with
  | .ok session engine =>
      { bench with engine, seats := bench.seats ++ [{ session, request, inputs, outputs }] }
  | .error _ engine => { bench with engine }

def run (bench : Bench) (seat : Seat) (inputs outputs : List Nat) : Bench :=
  match bench.runSeat seat inputs outputs with
  | .ok effect engine => { bench with engine, tensors := receive effect 0 outputs bench.tensors }
  | .error failed engine =>
      { bench with engine, tensors := receive failed.effect 0 outputs bench.tensors }

def destroySession (bench : Bench) (position : Nat) (seat : Seat) : Bench :=
  let ended := seat.session.destroy bench.engine
  let seats := bench.seats.set position { seat with session := ended.1 }
  { bench with engine := ended.2, seats }

def elsewhere (bench : Bench) (later : Engine) : Bench :=
  { bench with engine := { later with history := later.history ++ bench.engine.history } }

def perform (bench : Bench) : Deed → Bench
  | .makeTensor runtime element shape cells => bench.makeTensor runtime element shape cells
  | .write place position cell => bench.write place position cell
  | .destroyTensor place => bench.destroyTensor place
  | .makeSession host runtime options modelPath inputNames outputNames inputs outputs =>
      let request := bench.request modelPath inputNames outputNames inputs outputs
      bench.makeSession host runtime options request inputs outputs
  | .run position inputs outputs =>
      match bench.seats[position]? with
      | none => bench
      | some seat => bench.run seat inputs outputs
  | .destroySession position =>
      match bench.seats[position]? with
      | none => bench
      | some seat => bench.destroySession position seat
  | .elsewhere later => bench.elsewhere later

def performAll (bench : Bench) (deeds : List Deed) : Bench :=
  deeds.foldl perform bench

/-- How many values the library has created. -/
def created (bench : Bench) : Nat :=
  bench.engine.history.count .value

/-- A handle belongs to the tensor of a place and to no other, live or not. -/
structure Owns (bench : Bench) (place : Nat) (handle : Handle) : Prop where
  inside : place < bench.tensors.length
  number : handle.number ≤ bench.created
  still : ∀ other, bench.value place = some other → other = handle
  alone : ∀ other, bench.value other = some handle → other = place

/-- A session is bound to what it asked for, and that belongs to the tensors it was given. -/
structure Seated (bench : Bench) (seat : Seat) : Prop where
  binds : seat.request.Binds seat.session.inputs seat.session.outputs
  inputs : List.Forall₂ (fun place binding => bench.Owns place binding.value) seat.inputs
    seat.session.inputs
  outputs : List.Forall₂ (fun place binding => bench.Owns place binding.value) seat.outputs
    seat.session.outputs

structure Consistent (bench : Bench) : Prop where
  owned : ∀ place handle, bench.value place = some handle → bench.Owns place handle
  seated : ∀ seat ∈ bench.seats, bench.Seated seat

/-- Values only come into being as new ones in the place behind all others. -/
structure Grown (before after : Bench) : Prop where
  created : before.created ≤ after.created
  places : before.tensors.length ≤ after.tensors.length
  value : ∀ place handle, after.value place = some handle →
    before.value place = some handle ∨ (place = before.tensors.length ∧
      before.created < handle.number ∧ handle.number ≤ after.created)

variable {bench before after : Bench} {place : Nat} {handle : Handle} {seat : Seat}
variable {newer : History}

theorem value_eq (bench : Bench) (place : Nat) :
    bench.value place = (bench.tensors.map AnyTensor.value)[place]?.join := by
  rw [value, tensor, List.getD_eq_getElem?_getD, List.getElem?_map]
  cases bench.tensors[place]? <;> rfl

theorem inside_of_value (live : bench.value place = some handle) :
    place < bench.tensors.length := by
  rw [value_eq, Option.join_eq_some_iff] at live
  obtain ⟨inside, -⟩ := List.getElem?_eq_some_iff.mp live
  rwa [List.length_map] at inside

section Growth

theorem Owns.grown (owns : before.Owns place handle) (grown : Grown before after) :
    after.Owns place handle where
  inside := Nat.lt_of_lt_of_le owns.inside grown.places
  number := Nat.le_trans owns.number grown.created
  still other live := by
    rcases grown.value place other live with former | ⟨new, -⟩
    · exact owns.still other former
    · exact absurd new (Nat.ne_of_lt owns.inside)
  alone other live := by
    rcases grown.value other handle live with former | ⟨-, above, -⟩
    · exact owns.alone other former
    · exact absurd owns.number (Nat.not_le_of_lt above)

theorem Seated.grown (seated : before.Seated seat) (grown : Grown before after) :
    after.Seated seat where
  binds := seated.binds
  inputs := seated.inputs.imp fun _ _ owns => owns.grown grown
  outputs := seated.outputs.imp fun _ _ owns => owns.grown grown

/-- What grows stays consistent, if those sessions fit that were not there before. -/
theorem Consistent.grown (consistent : before.Consistent) (grown : Grown before after)
    (seated : ∀ seat ∈ after.seats, seat ∈ before.seats ∨ after.Seated seat) :
    after.Consistent where
  owned place handle live := by
    rcases grown.value place handle live with former | ⟨new, above, number⟩
    · exact (consistent.owned place handle former).grown grown
    · refine ⟨inside_of_value live, number, ?_, ?_⟩
      · intro other liveToo
        rw [live] at liveToo
        exact (Option.some.inj liveToo).symm
      · intro other liveToo
        rcases grown.value other handle liveToo with former | ⟨newToo, -⟩
        · have below := (consistent.owned other handle former).number
          exact absurd below (Nat.not_le_of_lt above)
        · rw [newToo, new]
  seated seat member := by
    rcases seated seat member with former | fits
    · exact (consistent.seated seat former).grown grown
    · exact fits

theorem created_le (history : after.engine.history = newer ++ before.engine.history) :
    before.created ≤ after.created := by
  rw [created, created, history]
  exact count_le newer before.engine.history .value

/-- Tensors may change in everything but their values. -/
theorem Grown.of_kept (history : after.engine.history = newer ++ before.engine.history)
    (kept : after.tensors.map AnyTensor.value = before.tensors.map AnyTensor.value) :
    Grown before after where
  created := created_le history
  places := by
    have same := congrArg List.length kept
    rw [List.length_map, List.length_map] at same
    exact Nat.le_of_eq same.symm
  value place handle live := by
    rw [value_eq, kept, ← value_eq] at live
    exact .inl live

theorem map_value_modify {change : AnyTensor → AnyTensor}
    (keeps : ∀ held, (change held).value = held.value) (tensors : List AnyTensor) (place : Nat) :
    (tensors.modify place change).map AnyTensor.value = tensors.map AnyTensor.value := by
  refine List.ext_getElem? fun other => ?_
  rw [List.getElem?_map, List.getElem?_map, List.getElem?_modify]
  cases tensors[other]? with
  | none => rfl
  | some held =>
      by_cases same : place = other
      · simp [same, keeps]
      · simp [same]

theorem map_value_receive (effect : RunEffect) (position : Nat) (places : List Nat)
    (tensors : List AnyTensor) :
    (receive effect position places tensors).map AnyTensor.value =
      tensors.map AnyTensor.value := by
  induction places generalizing position tensors with
  | nil => rfl
  | cons place rest ih =>
      rw [receive, ih]
      apply map_value_modify
      exact fun _ => rfl

theorem makeTensor_grown (bench : Bench) (runtime : Runtime) (element : ElementType)
    (shape : Shape) (cells : List element.Cell) :
    Grown bench (bench.makeTensor runtime element shape cells) := by
  obtain ⟨newer, reached⟩ := Tensor.create_piles runtime shape cells bench.engine
  unfold makeTensor
  cases ended : Tensor.create runtime shape cells bench.engine with
  | error error engine =>
      rw [ended] at reached
      exact .of_kept reached.history rfl
  | ok tensor engine =>
      rw [ended] at reached
      obtain ⟨piled, made⟩ := reached
      obtain ⟨value, live, kind, held⟩ := made.held
      have stacked : value ∈ lasting newer.created ++ [] := by
        rw [← piled.made, held]
        exact List.mem_singleton_self value
      rw [List.append_nil] at stacked
      obtain ⟨above, number⟩ := piled.numbered.number (mem_lasting.mp stacked).1
      rw [kind] at above number
      rw [← piled.history] at number
      refine ⟨created_le piled.history, by simp, fun place handle found => ?_⟩
      rw [value_eq, List.map_append, List.getElem?_append] at found
      split at found
      · rw [← value_eq] at found
        exact .inl found
      · rename_i outside
        rw [List.length_map] at outside found
        rw [List.map_singleton, List.getElem?_singleton] at found
        split at found
        · have same : value = handle := Option.some.inj (live.symm.trans found)
          rw [← same]
          exact .inr ⟨by omega, above, number⟩
        · cases found

theorem destroyTensor_grown (bench : Bench) (place : Nat) :
    Grown bench (bench.destroyTensor place) := by
  obtain ⟨handles, history, -, -⟩ := (bench.tensor place).tensor.destroy_frees bench.engine
  refine ⟨created_le history, by simp [destroyTensor], fun other handle live => ?_⟩
  have gone := congrArg Tensor.value ((bench.tensor place).tensor.destroy_fst bench.engine)
  rw [value_eq, destroyTensor, List.map_set, List.getElem?_set] at live
  split at live
  · split at live
    · exact absurd (gone.symm.trans live) nofun
    · cases live
  · rw [← value_eq] at live
    exact .inl live

theorem run_grown (bench : Bench) (seat : Seat) (inputs outputs : List Nat) :
    Grown bench (bench.run seat inputs outputs) := by
  obtain ⟨newer, reached⟩ := seat.session.run_piles (inputs.map bench.operand)
    (outputs.map bench.value) bench.engine
  rw [← runSeat] at reached
  unfold run
  cases ended : bench.runSeat seat inputs outputs with
  | error failed engine =>
      rw [ended] at reached
      exact .of_kept reached.history (map_value_receive failed.effect 0 outputs bench.tensors)
  | ok effect engine =>
      rw [ended] at reached
      exact .of_kept reached.1.history (map_value_receive effect 0 outputs bench.tensors)

theorem makeSession_grown (bench : Bench) (host : Host) (runtime : Runtime)
    (options : SessionOptions) (request : SessionRequest) (inputs outputs : List Nat) :
    Grown bench (bench.makeSession host runtime options request inputs outputs) := by
  obtain ⟨newer, reached⟩ := Session.create_piles host runtime request options bench.engine
  unfold makeSession
  cases ended : Session.create host runtime request options bench.engine with
  | error error engine =>
      rw [ended] at reached
      exact .of_kept reached.history rfl
  | ok session engine =>
      rw [ended] at reached
      exact .of_kept reached.1.history rfl

theorem destroySession_grown (bench : Bench) (position : Nat) (seat : Seat) :
    Grown bench (bench.destroySession position seat) := by
  obtain ⟨handles, history, -, -⟩ := seat.session.destroy_frees bench.engine
  exact .of_kept history rfl

end Growth

section Seating

variable {places given : List Nat} {bindings : List Binding}

theorem map_value_eq_iff :
    places.map bench.value = bindings.map (some ·.value) ↔
      List.Forall₂ (fun place binding => bench.value place = some binding.value) places
        bindings := by
  rw [← List.forall₂_eq_eq_eq, List.forall₂_map_left_iff, List.forall₂_map_right_iff]

/-- What is bound of live tensors belongs to them. -/
theorem Consistent.owned_of_bound (consistent : bench.Consistent)
    (values : places.map bench.value = bindings.map (some ·.value)) :
    List.Forall₂ (fun place binding => bench.Owns place binding.value) places bindings :=
  (map_value_eq_iff.mp values).imp fun place binding live =>
    consistent.owned place binding.value live

/-- The values of these tensors are the bound ones exactly if the tensors are, and are live. -/
theorem bound_iff
    (owned : List.Forall₂ (fun place binding => bench.Owns place binding.value) places bindings) :
    given.map bench.value = bindings.map (some ·.value) ↔
      given = places ∧ ∀ place ∈ given, bench.value place ≠ none := by
  induction owned generalizing given with
  | nil => cases given <;> simp
  | @cons place binding places bindings owns rest ih =>
      cases given with
      | nil => simp
      | cons first given =>
          rw [List.map_cons, List.map_cons, List.cons_eq_cons, List.cons_eq_cons, ih,
            List.forall_mem_cons]
          constructor
          · rintro ⟨live, same, others⟩
            refine ⟨⟨owns.alone first live, same⟩, ?_, others⟩
            rw [live]
            exact Option.some_ne_none _
          · rintro ⟨⟨rfl, same⟩, live, others⟩
            obtain ⟨handle, found⟩ := Option.ne_none_iff_exists'.mp live
            rw [owns.still handle found] at found
            exact ⟨found, same, others⟩

/-- A session that was made fits those that were there. -/
theorem Consistent.makeSession (consistent : bench.Consistent) (host : Host) (runtime : Runtime)
    (options : SessionOptions) (modelPath : String) (inputNames outputNames : List String)
    (inputs outputs : List Nat) :
    let request := bench.request modelPath inputNames outputNames inputs outputs
    (bench.makeSession host runtime options request inputs outputs).Consistent := by
  intro request
  have grown := bench.makeSession_grown host runtime options request inputs outputs
  refine consistent.grown grown fun seat member => ?_
  obtain ⟨newer, reached⟩ := Session.create_piles host runtime request options bench.engine
  cases ended : Session.create host runtime request options bench.engine with
  | error error engine =>
      simp only [Bench.makeSession, ended] at member
      exact .inl member
  | ok session engine =>
      rw [ended] at reached
      obtain ⟨-, -, -, binds⟩ := reached
      simp only [Bench.makeSession, ended, List.mem_append, List.mem_singleton] at member
      refine member.imp_right fun same => ?_
      rw [same]
      have seated : bench.Seated { session, request, inputs, outputs } :=
        ⟨binds, consistent.owned_of_bound binds.values.1.symm,
          consistent.owned_of_bound binds.values.2.symm⟩
      exact seated.grown grown

theorem Consistent.destroySession (consistent : bench.Consistent) (position : Nat)
    (member : seat ∈ bench.seats) : (bench.destroySession position seat).Consistent := by
  have grown := bench.destroySession_grown position seat
  refine consistent.grown grown fun other among => ?_
  refine (List.mem_or_eq_of_mem_set among).imp_right fun same => ?_
  have ended : (seat.session.destroy bench.engine).1.inputs = seat.session.inputs ∧
      (seat.session.destroy bench.engine).1.outputs = seat.session.outputs := by
    unfold Session.destroy
    cases seat.session.handle <;> exact ⟨rfl, rfl⟩
  obtain ⟨binds, inputs, outputs⟩ := (consistent.seated seat member).grown grown
  rw [← ended.1] at inputs
  rw [← ended.2] at outputs
  rw [← ended.1, ← ended.2] at binds
  rw [same]
  exact ⟨binds, inputs, outputs⟩

end Seating

theorem Consistent.perform (consistent : bench.Consistent) (deed : Deed) :
    (bench.perform deed).Consistent := by
  cases deed with
  | makeTensor runtime element shape cells =>
      refine consistent.grown (bench.makeTensor_grown runtime element shape cells) ?_
      intro seat member
      simp only [Bench.perform, Bench.makeTensor] at member
      split at member <;> exact .inl member
  | write place position cell =>
      have same : bench.engine.history = [] ++ bench.engine.history := rfl
      refine consistent.grown (.of_kept same ?_) fun seat member => .inl member
      apply map_value_modify
      exact fun _ => rfl
  | destroyTensor place =>
      exact consistent.grown (bench.destroyTensor_grown place) fun seat member => .inl member
  | makeSession host runtime options modelPath inputNames outputNames inputs outputs =>
      exact consistent.makeSession host runtime options modelPath inputNames outputNames inputs
        outputs
  | run position inputs outputs =>
      simp only [Bench.perform]
      cases bench.seats[position]? with
      | none => exact consistent
      | some seat =>
          refine consistent.grown (bench.run_grown seat inputs outputs) fun other member => ?_
          simp only [Bench.run] at member
          split at member <;> exact .inl member
  | destroySession position =>
      simp only [Bench.perform]
      cases found : bench.seats[position]? with
      | none => exact consistent
      | some seat => exact consistent.destroySession position (List.mem_of_getElem? found)
  | elsewhere later =>
      exact consistent.grown (.of_kept rfl rfl) fun seat member => .inl member

theorem Consistent.performAll (consistent : bench.Consistent) (deeds : List Deed) :
    (bench.performAll deeds).Consistent := by
  induction deeds generalizing bench with
  | nil => exact consistent
  | cons deed rest ih => exact ih (consistent.perform deed)

theorem consistent_empty (engine : Engine) : Consistent { engine } where
  owned place handle live := by cases live
  seated seat member := by cases member

/-- The session is not destroyed, and these are the tensors that it was given, all still live. -/
structure Runnable (bench : Bench) (seat : Seat) (inputs outputs : List Nat) : Prop where
  session : seat.session.handle ≠ none
  sameInputs : inputs = seat.inputs
  sameOutputs : outputs = seat.outputs
  live : ∀ place ∈ inputs ++ outputs, bench.value place ≠ none

/-- Running a session is one call, with the names and values that were bound when it was created.
These are still the values of the tensors. -/
structure Called (bench : Bench) (seat : Seat) (inputs outputs : List Nat) (handle : Handle)
    (newer : History) : Prop where
  session : seat.session.handle = some handle
  calls : newer.calls = [.run handle
    (seat.session.inputs.zip (inputs.map fun place => (bench.operand place).contents))
    seat.session.outputs]
  binds : seat.request.Binds seat.session.inputs seat.session.outputs
  ownInputs : seat.request.inputs = inputs.map bench.value
  ownOutputs : seat.request.outputs = outputs.map bench.value
  ends : EndsIn (fun _ after => after.history = newer ++ bench.engine.history ∧ newer.Granted)
    (fun _ after => after.history = newer ++ bench.engine.history ∧ ¬ newer.Granted)
    (bench.runSeat seat inputs outputs)

section Running

variable {inputs outputs : List Nat}

theorem Seated.bound_iff_runnable (seated : bench.Seated seat) :
    (seat.session.handle ≠ none ∧
        inputs.map bench.value = seat.session.inputs.map (some ·.value) ∧
        outputs.map bench.value = seat.session.outputs.map (some ·.value)) ↔
      bench.Runnable seat inputs outputs := by
  rw [bound_iff seated.inputs, bound_iff seated.outputs]
  constructor
  · rintro ⟨session, ⟨sameInputs, inputsLive⟩, sameOutputs, outputsLive⟩
    exact ⟨session, sameInputs, sameOutputs, List.forall_mem_append.mpr ⟨inputsLive, outputsLive⟩⟩
  · rintro ⟨session, sameInputs, sameOutputs, live⟩
    obtain ⟨inputsLive, outputsLive⟩ := List.forall_mem_append.mp live
    exact ⟨session, ⟨sameInputs, inputsLive⟩, sameOutputs, outputsLive⟩

theorem map_value_operand (bench : Bench) (places : List Nat) :
    (places.map bench.operand).map (·.value) = places.map bench.value := by
  rw [List.map_map]
  rfl

theorem Seated.run_called (seated : bench.Seated seat)
    (runnable : bench.Runnable seat inputs outputs) :
    ∃ handle newer, bench.Called seat inputs outputs handle newer := by
  obtain ⟨-, inputsBound, outputsBound⟩ := seated.bound_iff_runnable.mpr runnable
  obtain ⟨handle, live⟩ := Option.ne_none_iff_exists'.mp runnable.session
  have operands := (bench.map_value_operand inputs).trans inputsBound
  obtain ⟨newer, calls, ends⟩ := Session.run_called live operands outputsBound
  rw [List.map_map] at calls
  refine ⟨handle, newer, live, calls, seated.binds, ?_, ?_, ends⟩
  · exact seated.binds.values.1.symm.trans inputsBound.symm
  · exact seated.binds.values.2.symm.trans outputsBound.symm

theorem Seated.run_refused (seated : bench.Seated seat)
    (other : ¬ bench.Runnable seat inputs outputs) :
    ∃ error, bench.runSeat seat inputs outputs = .error (.refused error) bench.engine := by
  rw [← seated.bound_iff_runnable, ← map_value_operand bench inputs] at other
  exact Session.run_refused other

end Running

end Bench

/-- Sessions are created as planned, and run on their own live values only.

To create a session asks nothing of the library if anything can be said against the request.  If
not, native options are created, then the session, and it is handed out exactly when nothing was
denied; the options are gone again in any case.

Whatever else happens to tensors and sessions, running a session is one call with the names and
values that were bound when it was created, if it and these tensors are live and it is given them
in their order.  Otherwise it is an error, nothing is asked of the library and no output is
touched. -/
theorem sessions_run_own_values :
    (∀ host runtime request options engine,
      (¬ request.Acceptable (host.files.present request.modelPath) →
        ∃ error, Session.create host runtime request options engine = .error error engine) ∧
      (request.Acceptable (host.files.present request.modelPath) →
        ∃ newer, EndsIn
          (fun session after =>
            Session.Attempted runtime request.modelPath options engine after True newer ∧
            session.handle.isSome ∧ request.Binds session.inputs session.outputs)
          (fun _ after =>
            Session.Attempted runtime request.modelPath options engine after False newer)
          (Session.create host runtime request options engine))) ∧
    ∀ engine deeds,
      let bench := Bench.performAll { engine } deeds
      ∀ seat ∈ bench.seats, ∀ inputs outputs,
        (bench.Runnable seat inputs outputs →
          ∃ handle newer, bench.Called seat inputs outputs handle newer) ∧
        (¬ bench.Runnable seat inputs outputs →
          ∃ error, bench.runSeat seat inputs outputs = .error (.refused error) bench.engine) := by
  constructor
  · intro host runtime request options engine
    exact ⟨fun refused => Session.create_unacceptable refused engine,
      fun acceptable => Session.create_attempted acceptable engine⟩
  · intro engine deeds bench seat member inputs outputs
    have seated := ((Bench.consistent_empty engine).performAll deeds).seated seat member
    exact ⟨seated.run_called, seated.run_refused⟩

def trialRuntime : Runtime :=
  ⟨⟨.environment, 1⟩, "1.21.0", "@/libonnxruntime.so"⟩

/-- Two tensors and a session on them, and then something else. -/
def trialBench (later : List Deed) : Bench :=
  let script : Scripted.Runtime := {}
  let host := Scripted.host (some "@/libonnxruntime.so") true
  Bench.performAll { engine := { behaviour := script.behaviour } }
    ([.makeTensor trialRuntime .int64 ⟨[1, 2]⟩ [5, 7],
      .makeTensor trialRuntime .float ⟨[1, 2]⟩ [0, 0],
      .makeSession host trialRuntime {} "@/model.onnx" ["ids"] ["states"] [0] [1]] ++ later)

/-- The session is run while its tensors are live.  After one of them was destroyed it is run on no
tensor, not on a new one either. -/
theorem trial_runs_own_values :
    let bench := trialBench []
    let later := trialBench [.destroyTensor 0, .makeTensor trialRuntime .int64 ⟨[1, 2]⟩ [5, 7]]
    (∃ seat ∈ bench.seats, ∃ handle newer, bench.Called seat [0] [1] handle newer) ∧
      ∃ seat ∈ later.seats, ∀ place, ∃ error,
        later.runSeat seat [place] [1] = .error (.refused error) later.engine := by
  intro bench later
  let seat : Seat := {
    session := {
      handle := some ⟨.session, 1⟩, inputs := [⟨"ids", ⟨.value, 1⟩⟩],
      outputs := [⟨"states", ⟨.value, 2⟩⟩], modelPath := "@/model.onnx", runtime := trialRuntime }
    request := {
      modelPath := "@/model.onnx", inputNames := ["ids"], outputNames := ["states"],
      inputs := [some ⟨.value, 1⟩], outputs := [some ⟨.value, 2⟩] }
    inputs := [0]
    outputs := [1] }
  have first : seat ∈ bench.seats := List.mem_of_mem_head? rfl
  have second : seat ∈ later.seats := List.mem_of_mem_head? rfl
  refine ⟨⟨seat, first, ?_⟩, seat, second, fun place => ?_⟩
  · have live : ∀ place ∈ [0, 1], bench.value place ≠ none := by
      simp only [bench]
      decide +kernel
    exact (sessions_run_own_values.2 _ _ seat first [0] [1]).1 ⟨nofun, rfl, rfl, live⟩
  · refine (sessions_run_own_values.2 _ _ seat second [place] [1]).2 fun runnable => ?_
    have gone : later.value 0 = none := rfl
    cases runnable.sameInputs
    exact runnable.live 0 (List.mem_cons_self ..) gone

end TextVectors.Inference

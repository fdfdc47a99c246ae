import TextVectors.Proofs.Embedding.Reuse

namespace TextVectors

/-! What a run is handed, and what it leaves in the output.

A batch session in its form passes every check before a run.  The run is handed the token
buffers, and an obliging library overwrites the output with what it computes from them.
-/

open Inference

namespace Inference.Session

theorem checkBound_of_bound {side : Side} {values : List (Option Handle)}
    {bindings : List Binding} (bound : values = bindings.map (some ·.value)) (position : Nat) :
    checkBound side position values bindings = .ok () := by
  subst bound
  induction bindings generalizing position with
  | nil => rfl
  | cons binding rest ih =>
      rw [List.map_cons, checkBound, if_pos rfl]
      exact ih (position + 1)

theorem checkSide_of_bound {side : Side} {values : List (Option Handle)} {bindings : List Binding}
    (bound : values = bindings.map (some ·.value)) : checkSide side values bindings = .ok () := by
  have same : values.length = bindings.length := by rw [bound, List.length_map]
  rw [checkSide, if_neg (fun differ => differ same)]
  exact checkBound_of_bound bound 0

/-- With what it is bound to, a live session does nothing but run. -/
theorem run_bound {session : Session} {handle : Handle} {inputs : List Operand}
    {outputs : List (Option Handle)} (live : session.handle = some handle)
    (inputsBound : inputs.map (·.value) = session.inputs.map (some ·.value))
    (outputsBound : outputs = session.outputs.map (some ·.value)) (engine : Engine) :
    session.run inputs outputs engine = Engine.requestRun
      (.run handle (session.inputs.zip (inputs.map (·.contents))) session.outputs) engine := by
  unfold Session.run
  rw [live]
  simp only [mapFailure, checkSide_of_bound inputsBound, checkSide_of_bound outputsBound, bind,
    EStateM.bind, ofExcept]

end Inference.Session

section Requests

variable {holds : Engine → Prop} (survives : ∀ engine event, holds engine →
  holds (engine.recorded event))
include survives

/-- What survives every event survives a call, however it ends. -/
theorem request_survives (call : Call) :
    Attains holds (Engine.request call) (fun _ => holds) (fun _ => holds) := by
  intro engine held
  rcases Engine.request_cases call engine with ⟨code, text, answered⟩ | ⟨outcome, -, -, done⟩
  · rw [Engine.request_failure answered]
    exact survives _ _ (survives _ _ (survives _ _ (survives _ _ held)))
  · rw [done]
    exact survives _ _ held

theorem requestRun_survives (call : Call) :
    Attains holds (Engine.requestRun call) (fun _ => holds) (fun _ => holds) := by
  have asked : Attains holds (Engine.request call) _ fun _ => holds :=
    request_survives survives call
  exact Engine.requestRun_attains asked

theorem BatchSession.run_survives (bundle : BatchSession) :
    Ensures holds bundle.run fun _ => holds := by
  have checked (result : Except SessionFault Unit) :
      Attains holds (ofExcept result) (fun _ => holds) (fun _ => holds) :=
    .ofExcept (fun _ _ _ held => held) fun _ _ _ held => held
  apply BatchSession.run_leaves
  unfold Session.run
  split
  · exact .ofThrow fun _ held => held
  · exact Attains.bind (.ofMapFailure (Attains.bind (checked _) fun _ => checked _))
      fun _ => requestRun_survives survives _

end Requests

section Obliging

variable {engine : Engine} {call : Call}

theorem requestRun_done (succeeds : engine.nextAnswer call.function = .success)
    (nothing : call.creates = none) :
    Engine.requestRun call engine =
      .ok (engine.effectOf call) (engine.recorded (.called call .done)) := by
  rw [Engine.requestRun_apply, Engine.request_done (by simp [succeeds]) nothing]

/-- A run is one call, and only its own answer makes it fail. -/
theorem requestRun_ends (call : Call) (engine : Engine) :
    EndsIn (fun _ after => ∃ outcome, after = engine.recorded (.called call outcome))
      (fun _ _ => engine.nextAnswer call.function ≠ .success) (Engine.requestRun call engine) := by
  rw [Engine.requestRun_apply]
  rcases Engine.request_cases call engine with ⟨code, text, answered⟩ | ⟨outcome, -, -, done⟩
  · rw [Engine.request_failure answered]
    intro succeeds
    cases answered.symm.trans succeeds
  · rw [done]
    exact ⟨outcome, rfl⟩

/-- Bindings of names to handles, with contents beside them, are the contents by name. -/
theorem zip_zipWith_mk (names : List String) (handles : List Handle) (contents : List Contents)
    (same : names.length = handles.length) :
    ((List.zipWith Binding.mk names handles).zip contents).map
        (fun input => (input.1.name, input.2)) = names.zip contents := by
  induction names generalizing handles contents with
  | nil => rfl
  | cons name rest ih =>
      cases handles with
      | nil => cases same
      | cons handle handles =>
          cases contents with
          | nil => rfl
          | cons content contents =>
              simp only [List.zipWith_cons_cons, List.zip_cons_cons, List.map_cons,
                ih handles contents (Nat.succ.inj same)]

theorem values_zipWith_mk (names : List String) (handles : List Handle)
    (same : names.length = handles.length) :
    (List.zipWith Binding.mk names handles).map (some ·.value) = handles.map some := by
  induction names generalizing handles with
  | nil => rw [List.eq_nil_of_length_eq_zero same.symm]; rfl
  | cons name rest ih =>
      cases handles with
      | nil => cases same
      | cons handle handles =>
          simp only [List.zipWith_cons_cons, List.map_cons, ih handles (Nat.succ.inj same)]

/-- A session runs on the values that it is bound to. -/
theorem Session.run_done {session : Session} {handle : Handle} {inputs : List Operand}
    {outputs : List (Option Handle)} (live : session.handle = some handle)
    (inputsBound : inputs.map (·.value) = session.inputs.map (some ·.value))
    (outputsBound : outputs = session.outputs.map (some ·.value))
    (succeeds : engine.nextAnswer .run = .success) :
    let call := Call.run handle (session.inputs.zip (inputs.map (·.contents))) session.outputs
    session.run inputs outputs engine =
      .ok (engine.effectOf call) (engine.recorded (.called call .done)) := by
  intro call
  rw [Session.run_bound live inputsBound outputsBound]
  exact requestRun_done succeeds rfl

namespace BoundModel

variable {model : BoundModel} {batch : Nat} {bundle : BatchSession} {handle : Handle}

/-- A batch session hands its session what that is bound to. -/
theorem Fits.bound (fits : model.Fits batch bundle) :
    bundle.operands.map (·.value) = bundle.session.inputs.map (some ·.value) ∧
      [bundle.output.value] = bundle.session.outputs.map (some ·.value) := by
  obtain ⟨handles, values, named, inputs⟩ := fits.formed.inputs
  obtain ⟨result, valueOut, outputs⟩ := fits.formed.output
  constructor
  · rw [inputs, values_zipWith_mk _ _ named, ← values, BatchSession.inputValues,
      BatchSession.operands]
    cases bundle.types <;> rfl
  · rw [outputs, valueOut]
    rfl

/-- The buffers of a batch session in the order in which it hands them over. -/
theorem contents_operands (bundle : BatchSession) :
    bundle.operands.map (·.contents) = bundle.buffers.contents := by
  unfold BatchSession.operands
  cases given : bundle.types with
  | none => simp only [BatchSession.buffers, TokenBuffers.contents, given]; rfl
  | some tensor => simp only [BatchSession.buffers, TokenBuffers.contents, given]; rfl

/-- A run is handed the token buffers. -/
theorem Fits.hands (fits : model.Fits batch bundle) :
    (bundle.session.inputs.zip bundle.buffers.contents).map
      (fun input => (input.1.name, input.2)) = model.named bundle.buffers := by
  obtain ⟨handles, -, named, inputs⟩ := fits.formed.inputs
  rw [inputs, zip_zipWith_mk _ _ _ named, BoundModel.named]

/-- An obliging library is handed the token buffers and computes the output from them. -/
theorem run_obliging (obliging : engine.Obliging model.binding.modelPath model.compute)
    (fits : model.Fits batch bundle) (live : bundle.session.handle = some handle)
    (made : engine.history.MadeFor model.binding.modelPath handle) :
    ∃ event, event.handed? = some (model.named bundle.buffers) ∧ event.created? = none ∧
      bundle.run engine = ((.ok (), { bundle with
        output := { bundle.output with
          cells := (List.range bundle.output.cells.length).map
            (model.compute (model.named bundle.buffers)) } }), engine.recorded event) := by
  obtain ⟨inputsBound, outputsBound⟩ := fits.bound
  have ran := Session.run_done live inputsBound outputsBound
    (obliging.succeeds .run _ (Nat.lt_succ_self _))
  rw [contents_operands] at ran
  let call := Call.run handle (bundle.session.inputs.zip bundle.buffers.contents)
    bundle.session.outputs
  refine ⟨.called call .done, congrArg some fits.hands, rfl, ?_⟩
  have cells : (engine.effectOf call).apply 0 bundle.output.cells =
      (List.range bundle.output.cells.length).map
        (model.compute (model.named bundle.buffers)) := by
    refine List.ext_getElem (by simp [RunEffect.apply]) fun cell inside other => ?_
    have computed := obliging.computes (engine.history.callCount .run + 1) handle
      (bundle.session.inputs.zip bundle.buffers.contents) bundle.session.outputs cell
    rw [fits.hands] at computed
    simp only [RunEffect.apply, List.getElem_mapIdx, List.getElem_map, List.getElem_range]
    exact computed _ (Nat.lt_succ_self _) (.inl made)
  rw [← cells]
  simp only [BatchSession.run, bind_apply, attempt, ran]
  rfl

/-- Whatever the library does, it is asked for one run, on the token buffers.  Only its own answer
makes that fail. -/
theorem Fits.run_asks (fits : model.Fits batch bundle) (engine : Engine) :
    match (bundle.run engine).1.1 with
    | .ok _ => ∃ event, event.handed? = some (model.named bundle.buffers) ∧
        (bundle.run engine).2 = engine.recorded event
    | .error _ => engine.nextAnswer .run ≠ .success := by
  obtain ⟨handle, live⟩ := Option.isSome_iff_exists.mp fits.live
  obtain ⟨inputsBound, outputsBound⟩ := fits.bound
  have ran := Session.run_bound live inputsBound outputsBound engine
  rw [contents_operands] at ran
  have reached := requestRun_ends (.run handle
    (bundle.session.inputs.zip bundle.buffers.contents) bundle.session.outputs) engine
  rw [← ran] at reached
  simp only [BatchSession.run, bind_apply, attempt]
  cases ended : bundle.session.run bundle.operands [bundle.output.value] engine with
  | ok effect after =>
      rw [ended] at reached
      obtain ⟨outcome, rfl⟩ := reached
      refine ⟨_, ?_, rfl⟩
      exact congrArg some fits.hands
  | error cause after =>
      rw [ended] at reached
      exact reached

end BoundModel

end Obliging

end TextVectors

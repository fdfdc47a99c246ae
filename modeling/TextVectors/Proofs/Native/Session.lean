import TextVectors.Inference.Session
import TextVectors.Proofs.Native.Tensor

namespace TextVectors.Inference.Session

/-! Sessions own their native session while it is live, and refer to their runtime
until they are discarded. -/

open Owned

variable {session : Session} {given : Owned}

def assets (session : Session) : Owned :=
  stake session.runtime (handles session.handle)

section

variable [Lineage] {runtime : Runtime}

/-- A call that only sets something about an object. -/
theorem set_trades {call : Call} {native : Handle} {objects : Multiset Handle}
    (uses : call.uses = [native]) (nothing : call.creates = none) (member : native ∈ objects) :
    TradesOr (stake runtime objects) (Engine.request call) (fun _ => stake runtime objects)
      (fun _ => True) (stake runtime objects) := by
  refine request_trades ?_ nothing
  intro handle used
  rw [uses, List.mem_singleton] at used
  rw [used]
  exact holds_stake runtime member

theorem setOptions_trades {native : Handle} {objects : Multiset Handle}
    (member : native ∈ objects) (options : SessionOptions) :
    TradesOr (stake runtime objects) (setOptions native options) (fun _ => stake runtime objects)
      (fun _ => True) (stake runtime objects) := by
  unfold setOptions
  refine .bind (set_trades rfl rfl member) fun _ _ => ?_
  have inter : TradesOr (stake runtime objects) (do
      if options.interOpThreads > 0 then
        let _ ← Engine.request (.setInterOpThreads native options.interOpThreads))
      (fun _ => stake runtime objects) (fun _ => True) (stake runtime objects) := by
    split
    · exact .bind (set_trades rfl rfl member) fun _ _ => .ofPure trivial rfl
    · exact .ofPure trivial rfl
  dsimp only
  split
  · exact .bind (set_trades rfl rfl member) fun _ _ => inter
  · exact inter

theorem load_trades (current : Lineage.current runtime.environment) (modelPath : String)
    {native : Handle} {objects : Multiset Handle} (member : native ∈ objects)
    (options : SessionOptions) :
    TradesOr (stake runtime objects) (load runtime modelPath native options)
      (fun result => stake runtime (handles result + objects)) (fun _ => True)
      (stake runtime objects) := by
  unfold load
  refine .bind (setOptions_trades member options) fun _ _ => make_trades current rfl rfl ?_
  intro handle used
  simp only [Call.uses, List.mem_cons, List.not_mem_nil, or_false] at used
  rcases used with rfl | rfl
  · exact holds_environment runtime objects
  · exact holds_stake runtime member

theorem create_trades (current : Lineage.current runtime.environment) (host : Host)
    (request : SessionRequest) (options : SessionOptions) :
    TradesOr (reference runtime) (create host runtime request options)
      (fun session => session.assets + reference runtime) (fun _ => True) (reference runtime) := by
  unfold create
  refine .bind (.ofExcept _) fun bound _ => ?_
  obtain ⟨inputs, outputs⟩ := bound
  refine .bindMake current rfl rfl (by simp [Call.uses]) rfl (.ofThrow rfl) fun native => ?_
  refine .bindStep (load_trades current request.modelPath (by simp) options).trades_attempt
    fun result _ => ?_
  cases result with
  | error error => exact .bindStep (release_trades native) fun _ _ => .ofThrow rfl
  | ok made =>
      dsimp only
      rw [add_left_comm]
      refine .bindStep (release_trades native) fun _ _ => ?_
      rw [add_zero]
      cases made with
      | none => exact .ofThrow rfl
      | some handle =>
          exact .bindStep (note_trades _ _) fun _ _ =>
            .bindStep retain_trades fun _ _ => .ofPure trivial rfl

end

/-- Values that pass the check of a side are live and the ones that were bound. -/
theorem bound_of_checkBound {side : Side} {position : Nat} {values : List (Option Handle)}
    {bindings : List Binding} (same : values.length = bindings.length)
    (checked : checkBound side position values bindings = .ok ()) :
    values = bindings.map (some ·.value) := by
  induction values generalizing position bindings with
  | nil =>
      cases bindings with
      | nil => rfl
      | cons binding rest => simp at same
  | cons value rest ih =>
      cases bindings with
      | nil => simp at same
      | cons binding bindings =>
          unfold checkBound at checked
          split at checked
          · rename_i bound
            rw [List.map_cons, bound, ih (by simpa using same) checked]
          · cases checked

theorem bound_of_checkSide {side : Side} {values : List (Option Handle)} {bindings : List Binding}
    (checked : checkSide side values bindings = .ok ()) : values = bindings.map (some ·.value) := by
  unfold checkSide at checked
  split at checked
  · cases checked
  · rename_i same
    exact bound_of_checkBound (by simpa using same) checked

section

variable [Lineage]

theorem run_trades {inputs : List Operand} {outputs : List (Option Handle)}
    (own : ∀ handle, session.handle = some handle → given.Holds handle)
    (inputsHeld : ∀ handle, some handle ∈ inputs.map (·.value) → given.Holds handle)
    (outputsHeld : ∀ handle, some handle ∈ outputs → given.Holds handle) :
    TradesOr given (session.run inputs outputs) (fun _ => given) (fun _ => True) given := by
  unfold run
  cases live : session.handle with
  | none => exact .ofThrow rfl
  | some handle =>
      have checks : TradesOr given (mapFailure (fun fault => FailedRun.refused (.invalidInput fault)) do
          ofExcept (checkSide .input (inputs.map (·.value)) session.inputs)
          ofExcept (checkSide .output outputs session.outputs)) (fun _ => given)
          (fun _ => checkSide .input (inputs.map (·.value)) session.inputs = .ok () ∧
            checkSide .output outputs session.outputs = .ok ()) given :=
        .ofMapFailure (.bind (.ofExcept _) fun _ first =>
          (TradesOr.ofExcept _).weaken fun _ second => ⟨first, second⟩)
      refine .bind checks fun _ passed => ?_
      refine requestRun_trades ?_ rfl
      have inputValues := bound_of_checkSide passed.1
      have outputValues := bound_of_checkSide passed.2
      intro used member
      simp only [Call.uses, List.cons_append, List.mem_cons, List.mem_append, List.mem_map]
        at member
      rcases member with rfl | ⟨⟨binding, contents⟩, bound, rfl⟩ | ⟨binding, bound, rfl⟩
      · exact own used live
      · apply inputsHeld
        rw [inputValues]
        exact List.mem_map_of_mem (List.of_mem_zip bound).1
      · apply outputsHeld
        rw [outputValues]
        exact List.mem_map_of_mem bound

theorem destroy_trades (session : Session) :
    Trades session.assets session.destroy assets
      (fun after => after.handle = none ∧ after.runtime = session.runtime) := by
  unfold destroy
  cases live : session.handle with
  | none => exact .ofPure ⟨live, rfl⟩ rfl
  | some handle =>
      have owned : session.assets = stake session.runtime ({handle} + 0) := by
        rw [assets, live, handles_some, add_zero]
      rw [owned]
      exact .bind (release_trades handle) fun _ _ =>
        .bind (note_trades _ _) fun _ _ => .ofPure ⟨rfl, rfl⟩ rfl

theorem discard_trades (session : Session) :
    Trades session.assets session.discard (fun _ => 0) (fun _ => True) := by
  have rest : Trades session.assets (do
      let _ ← session.destroy
      session.runtime.letGo) (fun _ => 0) (fun _ => True) := by
    refine .bind (destroy_trades session) ?_
    intro after reached
    obtain ⟨gone, same⟩ := reached
    rw [assets, gone, same]
    exact letGo_trades session.runtime
  unfold discard
  split
  · exact .bind (note_trades _ _) fun _ _ => rest
  · exact rest

end

end TextVectors.Inference.Session

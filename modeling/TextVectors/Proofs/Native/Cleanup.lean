import TextVectors.Proofs.Embedding.StoredRun
import TextVectors.Proofs.Native.Course

namespace TextVectors

/-! Tensors, sessions and batch sessions clean up after a failed call.

Each of them holds the objects that it will release.  Creating one hands on what it holds, or
releases everything that it made on the way.
-/

open Inference History

/-- The failure of the library that an error goes back to, under all that was said about it. -/
def EmbeddingError.root : EmbeddingError → Option RuntimeError
  | .runtime error => some error
  | .context _ source => source.root
  | _ => none

namespace Inference

namespace Tensor

variable {element : ElementType}

/-- The value that a tensor releases when it is destroyed. -/
def held (tensor : Tensor element) : List Handle :=
  match tensor.value, tensor.runtime with
  | some value, some _ => [value]
  | _, _ => []

theorem destroy_frees (tensor : Tensor element) : Frees tensor.held tensor.destroy := by
  unfold destroy held
  cases tensor.value with
  | none => exact .ofPure destroyed
  | some value =>
      cases tensor.runtime with
      | none => exact .ofPure destroyed
      | some runtime =>
          exact .bindQuiet (.release value) fun _ => .bindQuiet (.letGo runtime) fun _ =>
            .ofPure destroyed

theorem createValue_course (element : ElementType) (shape : Shape) (length : Nat) :
    Course some [] (createValue element shape length) (fun value => [value]) := by
  unfold createValue
  refine .bind (makes_course nofun) fun info => ?_
  cases info with
  | none => exact .ofThrow _
  | some info =>
      refine .bindAttempt (makes_course nofun) (.release info) (fun value => ?_) fun _ => rfl
      cases value with
      | none => exact .ofThrow _
      | some value => exact .ofPure rfl

theorem retain_frees (runtime : Runtime) : Frees [] runtime.retain :=
  .ofQuiet (fun _ => rfl) fun _ => rfl

theorem create_course (runtime : Runtime) (shape : Shape) (cells : List element.Cell) :
    Course some [] (create runtime shape cells) held := by
  unfold create
  refine .bind (.ofChecked _ _) fun expected => ?_
  by_cases same : cells.length = expected
  · simp only [same, ne_eq, not_true_eq_false, if_false]
    refine .bind (createValue_course element shape expected) fun value => ?_
    exact .bindQuiet (retain_frees runtime) fun _ => .ofPure rfl
  · simp only [same, ne_eq, not_false_eq_true, if_true]
    exact .ofThrow _

theorem zeros_course (runtime : Runtime) (shape : Shape) :
    Course some [] (zeros element runtime shape) held :=
  .bind (.ofChecked _ _) fun _ =>
    create_course runtime shape _

end Tensor

namespace Session

def held (session : Session) : List Handle :=
  session.handle.toList

theorem destroy_frees (session : Session) : Frees session.held session.destroy := by
  unfold destroy held
  cases session.handle with
  | none => exact .ofPure session
  | some handle =>
      exact .bindQuiet (.release handle) fun _ => .bindQuiet (.ofNote _ _) fun _ => .ofPure _

theorem discard_frees (session : Session) : Frees session.held session.discard := by
  have gone : Frees session.held (do
      let _ ← session.destroy
      session.runtime.letGo) :=
    .bindQuiet session.destroy_frees fun _ => .letGo _
  unfold discard
  split
  · exact .bind (.ofNote _ _) fun _ => gone
  · exact gone

theorem setOptions_course (native : Handle) (options : SessionOptions) :
    Course some [] (setOptions native options) (fun _ => []) := by
  unfold setOptions
  refine .bind (sets_course nofun rfl) fun _ => ?_
  have inter : Course some [] (do
      if options.interOpThreads > 0 then
        let _ ← Engine.request (.setInterOpThreads native options.interOpThreads))
      (fun _ => []) := by
    split
    · exact .bind (sets_course nofun rfl) fun _ => .ofPure rfl
    · exact .ofPure rfl
  dsimp only
  split
  · exact .bind (sets_course nofun rfl) fun _ => inter
  · exact inter

theorem load_course (runtime : Runtime) (modelPath : String) (native : Handle)
    (options : SessionOptions) :
    Course some [] (load runtime modelPath native options) Option.toList :=
  .bind (setOptions_course native options) fun _ => makes_course nofun

theorem create_course (host : Host) (runtime : Runtime) (request : SessionRequest)
    (options : SessionOptions) : Course some [] (create host runtime request options) held := by
  unfold create
  refine .bind (.ofExcept _) fun sides => .bind (makes_course nofun) fun native => ?_
  cases native with
  | none => exact .ofThrow _
  | some native =>
      refine .bindAttempt (load_course _ _ native options) (.release native) (fun loaded => ?_)
        fun _ => rfl
      cases loaded with
      | none => exact .ofThrow _
      | some handle =>
          exact .bindQuiet (.ofNote _ _) fun _ => .bindQuiet (Tensor.retain_frees runtime) fun _ =>
            .ofPure rfl

end Session

end Inference

namespace BatchSession

variable {bundle : BatchSession} {tensor : Tensor .int64} {types : Option (Tensor .int64)}

def heldByTypes (types : Option (Tensor .int64)) : List Handle :=
  match types with
  | none => []
  | some tensor => tensor.held

/-- What a batch session releases when it is destroyed, in that order. -/
def held (bundle : BatchSession) : List Handle :=
  bundle.session.held ++ (bundle.output.held ++
    (heldByTypes bundle.types ++ (bundle.mask.held ++ bundle.ids.held)))

theorem tokenTensor_course (runtime : Runtime) (shape : Shape) (name : String) :
    Course EmbeddingError.root [] (tokenTensor runtime shape name) Tensor.held :=
  .ofMapFailure (Tensor.zeros_course runtime shape) fun _ _ same => same

theorem destroyTensor_frees {element : ElementType} (tensor : Tensor element) :
    Frees tensor.held (destroyTensor tensor) :=
  .bindQuiet tensor.destroy_frees fun _ => .ofPure ()

theorem destroyTypes_frees (types : Option (Tensor .int64)) :
    Frees (heldByTypes types) (destroyTypes types) := by
  cases types with
  | none => exact .ofPure ()
  | some tensor => exact destroyTensor_frees tensor

theorem create_course (host : Host) (runtime : Runtime) (binding : ModelBinding) (batch : Nat)
    (outputShape : List Int) :
    Course EmbeddingError.root [] (create host runtime binding batch outputShape) held := by
  unfold create
  refine .bind (.ofChecked _ _) fun rows => .bind (.ofChecked _ _) fun columns => ?_
  refine .bind (tokenTensor_course _ _ _) fun ids => ?_
  refine .bind ((tokenTensor_course _ _ _).orCleanUp (destroyTensor_frees ids)) fun mask => ?_
  dsimp only
  have dropInputs := (destroyTensor_frees mask).bind fun _ => destroyTensor_frees ids
  have typed : Course EmbeddingError.root (mask.held ++ ids.held)
      (if binding.usesTokenTypes then
        some <$> orCleanUp (do destroyTensor mask; destroyTensor ids)
          (tokenTensor runtime ⟨[rows, columns]⟩ "token_type_ids")
      else pure none)
      (fun types => heldByTypes types ++ (mask.held ++ ids.held)) := by
    split
    · exact ((tokenTensor_course _ _ _).orCleanUp dropInputs).map fun _ => rfl
    · exact .ofPure rfl
  rw [ite_bind]
  refine .bind typed fun types => ?_
  have dropTokens := (destroyTypes_frees types).bind fun _ => dropInputs
  have outputs : Course EmbeddingError.root []
      (mapFailure (failing "failed to create output tensor")
        (Tensor.zeros .float runtime ⟨outputShape⟩)) Tensor.held :=
    .ofMapFailure (Tensor.zeros_course _ _) fun _ _ same => same
  refine .bind (outputs.orCleanUp dropTokens) fun output => ?_
  have dropAll := (destroyTensor_frees output).bind fun _ => dropTokens
  have sessions : Course EmbeddingError.root []
      (mapFailure (failing "failed to create inference session")
        (Session.create host runtime (request binding ids mask types output) binding.options))
      Session.held :=
    .ofMapFailure (Session.create_course _ _ _ _) fun _ _ same => same
  refine .bind (sessions.orCleanUp dropAll) fun session => ?_
  exact .bindQuiet (.ofNote _ _) fun _ => .ofPure rfl

theorem destroy_frees (bundle : BatchSession) : Frees bundle.held bundle.destroy := by
  unfold destroy
  refine .bind bundle.session.destroy_frees fun session => ?_
  refine .bind bundle.output.destroy_frees fun output => ?_
  have tail (types : Option (Tensor .int64)) : Frees (bundle.mask.held ++ bundle.ids.held) (do
      let mask ← bundle.mask.destroy
      let ids ← bundle.ids.destroy
      return { bundle with session, output, types, mask, ids }) :=
    .bind bundle.mask.destroy_frees fun mask =>
      .bindQuiet bundle.ids.destroy_frees fun ids => .ofPure _
  cases bundle.types with
  | none => exact tail none
  | some tensor =>
      exact .bind (.bindQuiet tensor.destroy_frees fun _ => .ofPure _) fun types => tail types

theorem dispose_frees (bundle : BatchSession) : Frees bundle.held bundle.dispose :=
  .bindQuiet bundle.destroy_frees fun after =>
    after.session.discard_frees.fewer (List.nil_subset after.session.held)

/-- A run is one call, if it gets that far. -/
theorem requestRun_attains {call : Call} (nothing : call.creates = none) (engine : Engine) :
    Attains (· = engine) (Engine.requestRun call)
      (fun _ after => after = engine.recorded (.called call .done))
      (fun failed after => ∃ newer, Stretch [] [] engine after newer ∧
        Stopped engine [] call failed.error newer) := by
  rintro engine rfl
  rw [Engine.requestRun_apply]
  rcases Engine.request_cases call engine with ⟨code, text, answered⟩ | ⟨outcome, -, plain, done⟩
  · obtain ⟨after, cause, failed, stretch, stopped⟩ := stopped_of_failure answered
    rw [failed]
    exact ⟨_, stretch, stopped⟩
  · rw [done, plain nothing]
    rfl

/-- A run is one call at most, and the failure of that is its own. -/
theorem run_ends (bundle : BatchSession) (engine : Engine) :
    Ensures (· = engine) bundle.run fun outcome after =>
      match outcome.1 with
      | .ok _ => ∃ call, call.function = .run ∧ after = engine.recorded (.called call .done)
      | .error error => after = engine ∨ ∃ call newer, call.function = .run ∧
          Stretch [] [] engine after newer ∧ Stopped engine [] call error newer := by
  apply run_ensures fun error after => after = engine ∨ ∃ call newer, call.function = .run ∧
    Stretch [] [] engine after newer ∧ Stopped engine [] call error newer
  unfold Session.run
  cases bundle.session.handle with
  | none => exact Attains.ofThrow fun _ same => .inl same
  | some handle =>
      have checked (result : Except SessionFault Unit) :
          Attains (· = engine) (ofExcept result) (fun _ => (· = engine))
            (fun _ => (· = engine)) :=
        Attains.ofExcept (fun _ _ _ same => same) fun _ _ _ same => same
      refine Attains.bind (Attains.ofMapFailure (Attains.bind ((checked _).weaken
        (fun _ _ same => same) fun _ _ same => .inl same) fun _ => (checked _).weaken
          (fun _ _ same => same) fun _ _ same => .inl same)) fun _ => ?_
      refine (requestRun_attains rfl engine).weaken (fun _ _ same => ⟨_, rfl, same⟩) ?_
      rintro _ _ ⟨newer, stopped⟩
      exact .inr ⟨_, newer, rfl, stopped⟩

theorem Refilled.held {changed : BatchSession} (refilled : bundle.Refilled changed) :
    changed.held = bundle.held := by
  obtain ⟨cells, -, rfl⟩ := refilled
  rfl

end BatchSession

end TextVectors

import TextVectors.Embedding.BatchSession
import TextVectors.Proofs.Embedding.Obliging

namespace TextVectors

/-! When a batch session can be created.

Whether it can is known in advance from the sizes and the names, as long as no call to the
library fails.  What is created holds zeros everywhere and is bound as the model asks.
-/

open Inference

variable {ε ε' α β : Type} {fails : Prop} {holds : Engine → Prop}

theorem Attains.orCleanUp {before : Engine → Prop} {after : α → Engine → Prop}
    {failed : ε → Engine → Prop} {action : Action ε α} {cleanup : Step Unit}
    (attained : Attains before action after failed)
    (cleans : ∀ error, Ensures (failed error) cleanup fun _ => failed error) :
    Attains before (orCleanUp cleanup action) after failed := by
  refine Attains.bind (Attains.ofStep attained.ensures_attempt) fun result => ?_
  cases result with
  | ok value => exact .ofPure fun _ reached => reached
  | error error => exact cleans error

/-- Under a steady condition: what is obtained is good, and nothing is obtained only where the
library may fail or with an error of the refusal. -/
def Obtains (fails : Prop) (holds : Engine → Prop) (action : Action ε α) (good : α → Prop)
    (refused : ε → Prop) : Prop :=
  Attains holds action (fun value engine => holds engine ∧ good value)
    (fun error engine => holds engine ∧ (fails ∨ refused error))

namespace Obtains

variable {action : Action ε α} {next : α → Action ε β} {good : α → Prop} {goodLast : β → Prop}
variable {refused refused' : ε → Prop}

theorem ofPure {value : α} (holdsToo : good value) :
    Obtains fails holds (pure value : Action ε α) good refused :=
  Attains.ofPure fun _ held => ⟨held, holdsToo⟩

theorem ofThrow {error : ε} (why : fails ∨ refused error) :
    Obtains fails holds (throw error : Action ε α) good refused :=
  Attains.ofThrow fun _ held => ⟨held, why⟩

theorem ofExcept (result : Except ε α) :
    Obtains fails holds (TextVectors.ofExcept result) (fun value => result = .ok value)
      (fun error => result = .error error) :=
  Attains.ofExcept (fun _ succeeded _ held => ⟨held, succeeded⟩)
    fun _ failed _ held => ⟨held, .inr failed⟩

theorem ofMapFailure {wrap : ε → ε'} {refused : ε' → Prop}
    (obtained : Obtains fails holds action good fun error => refused (wrap error)) :
    Obtains fails holds (mapFailure wrap action) good refused :=
  Attains.ofMapFailure obtained

theorem bind (first : Obtains fails holds action good refused)
    (rest : ∀ value, good value → Obtains fails holds (next value) goodLast refused) :
    Obtains fails holds (action >>= next) goodLast refused :=
  Attains.bind first fun value engine reached => rest value reached.2 engine reached.1

theorem bindAttains {last : β → Engine → Prop}
    (first : Obtains fails holds action good refused)
    (rest : ∀ value, good value → Attains holds (next value) last
      (fun error engine => holds engine ∧ (fails ∨ refused error))) :
    Attains holds (action >>= next) last
      (fun error engine => holds engine ∧ (fails ∨ refused error)) :=
  Attains.bind first fun value engine reached => rest value reached.2 engine reached.1

theorem weaken {good' : α → Prop} (obtained : Obtains fails holds action good refused)
    (better : ∀ value, good value → good' value) (wider : ∀ error, refused error → refused' error) :
    Obtains fails holds action good' refused' :=
  Attains.weaken obtained (fun value _ reached => ⟨reached.1, better value reached.2⟩)
    fun error _ reached => ⟨reached.1, reached.2.imp_right (wider error)⟩

theorem bindStep {step : Step α} (first : Ensures holds step fun _ => holds)
    (rest : ∀ value, Obtains fails holds (next value) goodLast refused) :
    Obtains fails holds ((liftM step : Action ε α) >>= next) goodLast refused :=
  Attains.bind (Attains.ofStep first) fun value => rest value

theorem bindAttempt {action : Action ε' α} {refused' : ε' → Prop}
    {next : Except ε' α → Action ε β} (attempted : Obtains fails holds action good refused')
    (succeeded : ∀ value, good value → Obtains fails holds (next (.ok value)) goodLast refused)
    (failed : ∀ error, fails ∨ refused' error →
      Obtains fails holds (next (.error error)) goodLast refused) :
    Obtains fails holds ((liftM (attempt action) : Action ε (Except ε' α)) >>= next) goodLast
      refused := by
  refine Attains.bind (Attains.ofStep attempted.ensures_attempt) fun result => ?_
  cases result with
  | ok value => exact fun engine reached => succeeded value reached.2 engine reached.1
  | error error => exact fun engine reached => failed error reached.2 engine reached.1

theorem map {change : α → β} (obtained : Obtains fails holds action good refused)
    (better : ∀ value, good value → goodLast (change value)) :
    Obtains fails holds (change <$> action) goodLast refused :=
  .bind obtained fun value holdsToo => .ofPure (better value holdsToo)

theorem orCleanUp {cleanup : Step Unit} (obtained : Obtains fails holds action good refused)
    (cleans : Ensures holds cleanup fun _ => holds) :
    Obtains fails holds (orCleanUp cleanup action) good refused :=
  obtained.bindAttempt (fun _ holdsToo => .ofPure holdsToo)
    fun _ why => .bindStep cleans fun _ => .ofThrow why

end Obtains

section Tensors

variable {element : ElementType} (steady : Steady fails holds)
include steady

theorem createValue_obtains (element : ElementType) (shape : Shape) (length : Nat) :
    Obtains fails holds (Tensor.createValue element shape length) (fun _ => True)
      (fun _ => False) := by
  have requested {call : Call} {kind : ObjectKind} (creating : call.creates = some kind) :
      Obtains fails holds (Engine.request call) (fun value => value = none → fails)
        (fun _ => False) :=
    (request_creates steady creating).weaken (fun _ _ reached => ⟨reached.1, reached.2.1⟩)
      fun _ _ reached => ⟨reached.1, .inl reached.2⟩
  unfold Tensor.createValue
  refine .bind (requested rfl) fun info missing => ?_
  cases info with
  | none => exact .ofThrow (.inl (missing rfl))
  | some info =>
      refine .bindAttempt (requested rfl) (fun value missing => ?_) fun error why => ?_
      · refine .bindStep (release_steady steady info) fun _ => ?_
        cases value with
        | none => exact .ofThrow (.inl (missing rfl))
        | some value => exact .ofPure trivial
      · exact .bindStep (release_steady steady info) fun _ => .ofThrow why

/-- A tensor of zeros has as many cells as its shape needs, and a value. -/
theorem zeros_obtains (element : ElementType) (runtime : Runtime) (shape : Shape) :
    Obtains fails holds (Tensor.zeros element runtime shape)
      (fun tensor => shape.elementCount = .ok tensor.cells.length ∧ tensor.value.isSome)
      (fun error => ∃ fault, shape.elementCount = .error fault ∧ error = .invalidShape fault) := by
  have counted : Obtains fails holds (mapFailure RuntimeError.invalidShape
      (ofExcept shape.elementCount)) (fun count => shape.elementCount = .ok count)
      (fun error => ∃ fault, shape.elementCount = .error fault ∧ error = .invalidShape fault) :=
    .ofMapFailure ((Obtains.ofExcept _).weaken (fun _ found => found)
      fun fault failed => ⟨fault, failed, rfl⟩)
  unfold Tensor.zeros Tensor.create
  refine .bind counted fun count found => .bind counted fun expected again => ?_
  have same : count = expected := by
    rw [found] at again
    exact Except.ok.inj again
  subst same
  rw [List.length_replicate, if_neg (fun absurd => absurd rfl)]
  refine .bind ((createValue_obtains steady element shape count).weaken (fun _ holdsToo => holdsToo)
    fun _ => False.elim) fun value _ => ?_
  refine .bindStep (retain_steady steady runtime) fun _ => .ofPure ⟨?_, rfl⟩
  rw [List.length_replicate]
  exact found

theorem destroy_steady (tensor : Tensor element) :
    Ensures holds tensor.destroy fun _ => holds := by
  unfold Tensor.destroy
  split
  · exact (release_steady steady _).bind fun _ =>
      (letGo_steady steady _).bind fun _ => .ofPure fun _ held => held
  · exact .ofPure fun _ held => held

theorem destroyTensor_steady (tensor : Tensor element) :
    Ensures holds (BatchSession.destroyTensor tensor) fun _ => holds :=
  (destroy_steady steady tensor).bind fun _ => .ofPure fun _ held => held

theorem destroyTypes_steady (types : Option (Tensor .int64)) :
    Ensures holds (BatchSession.destroyTypes types) fun _ => holds := by
  cases types with
  | none => exact .ofPure fun _ held => held
  | some tensor => exact destroyTensor_steady steady tensor

end Tensors

section Sessions

variable (steady : Steady fails holds)
include steady

theorem set_obtains {call : Call} (nothing : call.creates = none)
    (quiet : ∀ outcome, (Event.called call outcome).handed? = none) :
    Obtains fails holds (Engine.request call) (fun _ => True) (fun _ => False) :=
  Attains.weaken (request_sets steady nothing quiet) (fun _ _ held => ⟨held, trivial⟩)
    fun _ _ reached => ⟨reached.1, .inl reached.2⟩

theorem setOptions_obtains (native : Handle) (options : SessionOptions) :
    Obtains fails holds (Session.setOptions native options) (fun _ => True) (fun _ => False) := by
  have inter : Obtains fails holds (do
      if options.interOpThreads > 0 then
        let _ ← Engine.request (.setInterOpThreads native options.interOpThreads))
      (fun _ => True) (fun _ => False) := by
    split
    · exact .bind (set_obtains steady rfl fun _ => rfl) fun _ _ => .ofPure trivial
    · exact .ofPure trivial
  unfold Session.setOptions
  refine .bind (set_obtains steady rfl fun _ => rfl) fun _ _ => ?_
  dsimp only
  split
  · exact .bind (set_obtains steady rfl fun _ => rfl) fun _ _ => inter
  · exact inter

/-- A session that is loaded was made for its model. -/
theorem load_attains (runtime : Runtime) (model : String) (native : Handle)
    (options : SessionOptions) :
    Attains holds (Session.load runtime model native options)
      (fun value engine => holds engine ∧ (value = none → fails) ∧
        ∀ handle, value = some handle → engine.history.MadeFor model handle)
      (fun _ engine => holds engine ∧ fails) := by
  have set : Attains holds (Session.setOptions native options) (fun _ => holds)
      (fun _ engine => holds engine ∧ fails) :=
    Attains.weaken (setOptions_obtains steady native options) (fun _ _ reached => reached.1)
      fun _ _ reached => ⟨reached.1, reached.2.elim id False.elim⟩
  refine Attains.bind set fun _ => ?_
  refine Attains.weaken (request_creates steady rfl) ?_ fun _ _ reached => reached
  intro value engine reached
  obtain ⟨held, missing, recorded⟩ := reached
  exact ⟨held, missing, fun handle same => ⟨_, _, recorded handle same⟩⟩

/-- A session is bound as asked and made for its model. -/
theorem session_attains (host : Host) (runtime : Runtime) (request : SessionRequest)
    (options : SessionOptions) :
    Attains holds (Session.create host runtime request options)
      (fun session engine => holds engine ∧
        request.bindings (host.files.present request.modelPath) =
          .ok (session.inputs, session.outputs) ∧
        ∃ handle, session.handle = some handle ∧ engine.history.MadeFor request.modelPath handle)
      (fun error engine => holds engine ∧ (fails ∨
        request.bindings (host.files.present request.modelPath) = .error error)) := by
  unfold Session.create
  refine Attains.bind (Obtains.ofExcept _) fun bound => ?_
  obtain ⟨inputs, outputs⟩ := bound
  intro engine reached
  obtain ⟨held, bindings⟩ := reached
  refine Attains.bind (Attains.weaken (request_creates steady rfl) (fun _ _ reached => reached)
    fun _ _ reached => ⟨reached.1, .inl reached.2⟩) (fun native => ?_) engine held
  intro engine reached
  obtain ⟨held, missing, -⟩ := reached
  cases native with
  | none => exact ⟨held, .inl (missing rfl)⟩
  | some native =>
      refine Attains.bind (Attains.ofStep (load_attains steady runtime request.modelPath native
        options).ensures_attempt) (fun result => ?_) engine held
      intro engine reached
      cases result with
      | error error =>
          exact ⟨release_steady steady native engine reached.1, .inl reached.2⟩
      | ok value =>
          cases value with
          | none => exact ⟨release_steady steady native engine reached.1, .inl (reached.2.1 rfl)⟩
          | some handle =>
              have made := steady.madeFor request.modelPath (· = handle)
              have released := release_steady made native engine
                ⟨reached.1, fun _ same => same ▸ reached.2.2 handle rfl⟩
              have noted := note_steady made .debug
                s!"Created session for {request.modelPath}" _ released
              obtain ⟨last, madeLast⟩ := retain_steady made runtime _ noted
              exact ⟨last, bindings, handle, rfl, madeLast handle rfl⟩

theorem session_destroy_steady (session : Session) :
    Ensures holds session.destroy fun _ => holds := by
  unfold Session.destroy
  split
  · exact .ofPure fun _ held => held
  · exact (release_steady steady _).bind fun _ =>
      (note_steady steady _ _).bind fun _ => .ofPure fun _ held => held

theorem dispose_steady (bundle : BatchSession) :
    Ensures holds bundle.dispose fun _ => holds := by
  have tail (session : Session) (output : Tensor .float) (types : Option (Tensor .int64)) :
      Ensures holds (do
        let mask ← bundle.mask.destroy
        let ids ← bundle.ids.destroy
        return { bundle with session, output, types, mask, ids }) fun _ => holds :=
    (destroy_steady steady _).bind fun _ => (destroy_steady steady _).bind fun _ =>
      .ofPure fun _ held => held
  have whole : Ensures holds bundle.destroy fun _ => holds := by
    unfold BatchSession.destroy
    refine (session_destroy_steady steady _).bind fun session => ?_
    refine (destroy_steady steady _).bind fun output => ?_
    split
    · exact ((destroy_steady steady _).bind fun _ => .ofPure fun _ held => held).bind
        fun types => tail session output types
    · exact .bind (.ofPure fun _ held => held) fun types => tail session output types
  refine whole.bind fun destroyed => ?_
  unfold Session.discard
  dsimp only
  split
  · exact (note_steady steady _ _).bind fun _ => (session_destroy_steady steady _).bind fun _ =>
      letGo_steady steady _
  · exact (session_destroy_steady steady _).bind fun _ => letGo_steady steady _

end Sessions

end TextVectors

import TextVectors.Proofs.Client.Accounting
import TextVectors.Proofs.Embedding.Orderly

namespace TextVectors.Client

/-! What operations do with the embedders of a client.

An operation uses one embedder, gives one up or adds one, or it leaves all of them alone.
-/

open Inference

variable {α β ε : Type}

namespace Task

/-- A task that leaves the embedders alone. -/
def Spares (task : Task α) : Prop :=
  ∀ holdings engine, (task.run.run holdings engine).1.2.embedders = holdings.embedders

namespace Spares

variable {task : Task α} {next : α → Task β}

theorem ofPure (value : α) : Spares (pure value : Task α) := fun _ _ => rfl

theorem ofThrow (error : ClientError) : Spares (throw error : Task α) := fun _ _ => rfl

theorem ofGet : Spares (get : Task Holdings) := fun _ _ => rfl

theorem ofStep (step : Step α) : Spares (liftM step : Task α) := fun _ _ => rfl

theorem ofModify {change : Holdings → Holdings}
    (same : ∀ holdings, (change holdings).embedders = holdings.embedders) :
    Spares (modify change : Task Unit) := fun holdings _ => same holdings

theorem bind (first : Spares task) (rest : ∀ value, Spares (next value)) :
    Spares (task >>= next) := by
  intro holdings engine
  have same := first holdings engine
  have continued : (task >>= next).run.run holdings engine =
      (ExceptT.bindCont next (task.run.run holdings engine).1.1).run
        (task.run.run holdings engine).1.2 (task.run.run holdings engine).2 := rfl
  rw [continued]
  cases ended : task.run.run holdings engine with
  | mk outcome engine =>
      obtain ⟨result, middle⟩ := outcome
      rw [ended] at same
      cases result with
      | ok value => exact (rest value middle engine).trans same
      | error error => exact same

theorem map (spares : Spares task) (change : α → β) : Spares (change <$> task) :=
  spares.bind fun value => .ofPure (change value)

theorem ofExcept (wrap : ε → ClientError) (result : Except ε α) :
    Spares (Task.ofExcept wrap result) := by
  cases result with
  | ok value => exact .ofPure value
  | error error => exact .ofThrow _

theorem ofRequire (missing : ClientError) (found : Option α) :
    Spares (Task.require missing found) := by
  cases found with
  | some value => exact .ofPure value
  | none => exact .ofThrow missing

theorem ofAction (wrap : ε → ClientError) (action : Action ε α) :
    Spares (Task.ofAction wrap action) := by
  intro holdings engine
  rw [run_ofAction]
  cases action engine <;> rfl

theorem ofTryCatch {recover : ClientError → Task α} (tried : Spares task)
    (recovers : ∀ error, Spares (recover error)) : Spares (tryCatch task recover) := by
  intro holdings engine
  have same := tried holdings engine
  cases ended : task.run.run holdings engine with
  | mk outcome middle =>
      obtain ⟨result, after⟩ := outcome
      rw [run_tryCatch ended]
      rw [ended] at same
      cases result with
      | ok value => exact same
      | error error => exact (recovers error after middle).trans same

theorem mapM {operation : α → Task β} (each : ∀ value, Spares (operation value))
    (values : List α) : Spares (values.mapM operation) := by
  induction values with
  | nil => exact .ofPure []
  | cons value rest ih =>
      rw [List.mapM_cons]
      exact (each value).bind fun _ => ih.bind fun _ => .ofPure _

/-- Looking something up among what is held. -/
theorem lookup (missing : ClientError) (found : Holdings → Option α) :
    Spares (do Task.require missing (found (← get))) :=
  .bind .ofGet fun _ => .ofRequire missing _

end Spares

theorem runtimeFor_spares (name : Option String) : Spares (runtimeFor name) := by
  refine .bind .ofGet fun holdings => ?_
  cases name with
  | some name => exact .ofRequire _ _
  | none => exact .ofExcept _ _

theorem storeEnvironment_spares (environment : Environment) :
    Spares (storeEnvironment environment) :=
  .ofModify fun _ => rfl

theorem storeTensor_spares (name : String) (tensor : AnyTensor) :
    Spares (storeTensor name tensor) :=
  .ofModify fun _ => rfl

theorem storeSession_spares (name : String) (session : Session) :
    Spares (storeSession name session) :=
  .ofModify fun _ => rfl

theorem keepRuntime_spares (name : String) (runtime : Runtime) :
    Spares (keepRuntime name runtime) := by
  refine .bind .ofGet fun seen => .bind (.ofModify fun _ => rfl) fun _ => ?_
  cases seen.runtime? name with
  | some old => exact .ofStep _
  | none => exact .ofPure ()

theorem keepTensor_spares (name : String) (tensor : AnyTensor) :
    Spares (keepTensor name tensor) := by
  refine .bind .ofGet fun seen => .bind (.ofModify fun _ => rfl) fun _ => ?_
  cases seen.tensor? name with
  | some old => exact .ofStep _
  | none => exact .ofPure ()

theorem keepSession_spares (name : String) (session : Session) :
    Spares (keepSession name session) := by
  refine .bind .ofGet fun seen => .bind (.ofModify fun _ => rfl) fun _ => ?_
  cases seen.session? name with
  | some old => exact .ofStep _
  | none => exact .ofPure ()

theorem load_spares : Spares Client.load :=
  .bind .ofGet fun _ => .bind (.ofAction _ _) storeEnvironment_spares

theorem unload_spares : Spares Client.unload :=
  .bind .ofGet fun _ => .bind (.ofStep _) storeEnvironment_spares

theorem loadTimes_spares (count : Nat) : Spares (loadTimes count) := by
  induction count with
  | zero => exact .ofPure 0
  | succ count ih =>
      have once : Spares (do Client.load; return 1) := load_spares.bind fun _ => .ofPure 1
      exact .bind (.ofTryCatch once fun _ => .ofPure 0) fun _ => ih.bind fun _ => .ofPure _

theorem unloadTimes_spares (count : Nat) : Spares (unloadTimes count) := by
  induction count with
  | zero => exact .ofPure ()
  | succ count ih => exact .bind unload_spares fun _ => ih

theorem createSession_spares (name model : String) (inputNames outputNames : List String)
    (tensors : TensorNames) (options : Option Json) (runtime : Option String) :
    Spares (createSession name model inputNames outputNames tensors options runtime) := by
  have named := Spares.mapM fun name => Spares.lookup .unknownName (·.tensor? name)
  refine .bind (named _) fun inputs => .bind (named _) fun outputs => ?_
  have read : Spares (readOptions options) := by
    cases options with
    | none => exact .ofPure ({} : SessionOptions)
    | some options => exact .ofRequire _ _
  refine .bind read fun _ => .bind (runtimeFor_spares runtime) fun _ => .bind .ofGet fun _ => ?_
  exact .bind (.ofAction _ _) fun session =>
    .bind (keepSession_spares name session) fun _ => .ofPure _

theorem receiveOutputs_spares (effect : RunEffect) (position : Nat)
    (outputs : List (String × AnyTensor)) : Spares (receiveOutputs effect position outputs) := by
  induction outputs generalizing position with
  | nil => exact .ofPure []
  | cons output rest ih =>
      exact .bind (storeTensor_spares _ _) fun _ => (ih (position + 1)).bind fun _ => .ofPure _

theorem runSession_spares (name : String) (tensors : TensorNames) :
    Spares (runSession name tensors) := by
  have named := Spares.mapM fun name => Spares.lookup .unknownName (·.tensor? name)
  have exclusive : Spares (checkExclusive tensors) := by
    unfold checkExclusive
    split
    · exact .ofThrow _
    · exact .ofPure ()
  refine .bind (.lookup _ (·.session? name)) fun session => .bind exclusive fun _ => ?_
  refine .bind (named _) fun inputs => .bind (named _) fun outputs => ?_
  refine .bind (.ofStep _) fun ran => .bind (receiveOutputs_spares (FailedRun.left ran) 0 _) ?_
  exact fun _ => .bind (.ofExcept _ _) fun _ => .ofPure _

end Task

/-- Whether an operation concerns embedders. -/
def Operation.onEmbedders : Operation → Bool
  | .openDense .. | .openSparse .. | .embed .. | .query .. | .close .. | .discard .. => true
  | _ => false

namespace Task

theorem task_spares {operation : Operation} (other : operation.onEmbedders = false) :
    Spares (task operation) := by
  cases operation with
  | inspect => exact .ofPure _
  | setLibraryPath path =>
      exact .bind .ofGet fun _ => .bind (.ofExcept _ _) fun environment =>
        .bind (storeEnvironment_spares environment) fun _ => .ofPure _
  | setLogLevel level =>
      refine .bind (.ofRequire _ _) fun level => .bind .ofGet fun _ => ?_
      exact .bind (.ofExcept _ _) fun environment =>
        .bind (storeEnvironment_spares environment) fun _ => .ofPure _
  | load => exact .bind load_spares fun _ => .ofPure _
  | unload => exact .bind unload_spares fun _ => .ofPure _
  | loadTimes count => exact .map (loadTimes_spares count) _
  | unloadTimes count => exact .bind (unloadTimes_spares count) fun _ => .ofPure _
  | holdRuntime name =>
      refine .bind (runtimeFor_spares none) fun runtime => .bind (.ofStep _) fun _ => ?_
      exact .bind (keepRuntime_spares name runtime) fun _ => .ofPure _
  | createTensor name element shape cells runtime =>
      refine .bind (runtimeFor_spares runtime) fun _ => .bind (.ofExcept _ _) fun _ => ?_
      exact .bind (.ofAction _ _) fun tensor =>
        .bind (keepTensor_spares name ⟨element, tensor⟩) fun _ => .ofPure _
  | readTensor name => exact .map (.lookup _ (·.tensor? name)) _
  | writeTensor name position value =>
      exact .bind (.lookup _ (·.tensor? name)) fun _ => .bind (storeTensor_spares _ _) fun _ =>
        .ofPure _
  | destroyTensor name =>
      exact .bind (.lookup _ (·.tensor? name)) fun _ => .bind (.ofStep _) fun _ =>
        .bind (storeTensor_spares _ _) fun _ => .ofPure _
  | createSession name model inputNames outputNames tensors options runtime =>
      exact createSession_spares name model inputNames outputNames tensors options runtime
  | readSession name => exact .map (.lookup _ (·.session? name)) _
  | destroySession name =>
      exact .bind (.lookup _ (·.session? name)) fun _ => .bind (.ofStep _) fun _ =>
        .bind (storeSession_spares _ _) fun _ => .ofPure _
  | runSession name tensors => exact runSession_spares name tensors
  | openDense => cases other
  | openSparse => cases other
  | embed => cases other
  | query => cases other
  | close => cases other
  | discard => cases other
  | describe name => exact .bind .ofGet fun _ => .ofPure _

end Task

/-- What is left of an embedder that was used, and of the engine. -/
def HeldEmbedder.use (held : HeldEmbedder) (engine : Engine) (use : EmbedderKind.Use) :
    HeldEmbedder × Engine :=
  match held.embedder with
  | .dense embedder =>
      let after := DenseEmbedder.kind.use (embedder, engine) use
      ({ held with embedder := .dense after.1 }, after.2)
  | .sparse embedder =>
      let after := SparseEmbedder.kind.use (embedder, engine) use
      ({ held with embedder := .sparse after.1 }, after.2)

/-- A step that uses the embedder of a name, if there is one, and nothing else. -/
def Uses (use : EmbedderKind.Use) (name : String) (holdings : Holdings) (engine : Engine)
    (after : Holdings) (last : Engine) : Prop :=
  (after = holdings ∧ last = engine) ∨ ∃ held, holdings.embedder? name = some held ∧
    after = embedderSlot.put holdings name (held.use engine use).1 ∧
      last = (held.use engine use).2

namespace Task

variable {holdings after : Holdings} {engine last : Engine}

theorem run_bind (task : Task α) (next : α → Task β) (holdings : Holdings) (engine : Engine) :
    (task >>= next).run.run holdings engine =
      match task.run.run holdings engine with
      | ((.ok value, after), last) => (next value).run.run after last
      | ((.error error, after), last) => ((.error error, after), last) := by
  have continued : (task >>= next).run.run holdings engine =
      (ExceptT.bindCont next (task.run.run holdings engine).1.1).run
        (task.run.run holdings engine).1.2 (task.run.run holdings engine).2 := rfl
  rw [continued]
  cases task.run.run holdings engine with
  | mk outcome last =>
      obtain ⟨result, after⟩ := outcome
      cases result <;> rfl

theorem run_embedderNamed (name : String) (holdings : Holdings) (engine : Engine) :
    (embedderNamed name).run.run holdings engine =
      match holdings.embedder? name with
      | some held => ((.ok held, holdings), engine)
      | none => ((.error .unknownName, holdings), engine) := by
  have looked : (embedderNamed name).run.run holdings engine =
      (Task.require .unknownName (holdings.embedder? name)).run.run holdings engine := rfl
  rw [looked]
  cases holdings.embedder? name <;> rfl

/-- A task that looks up an embedder, uses it, puts it back and replies. -/
theorem uses_of_found {name : String} {next : HeldEmbedder → Task Reply}
    {reply : Except ClientError Reply} (use : EmbedderKind.Use)
    (goes : ∀ held, (next held).run.run holdings engine = ((reply, after), last) →
      after = embedderSlot.put holdings name (held.use engine use).1 ∧
        last = (held.use engine use).2)
    (ran : (embedderNamed name >>= next).run.run holdings engine = ((reply, after), last)) :
    Uses use name holdings engine after last := by
  rw [run_bind, run_embedderNamed] at ran
  cases found : holdings.embedder? name with
  | none =>
      rw [found] at ran
      cases ran
      exact .inl ⟨rfl, rfl⟩
  | some held =>
      rw [found] at ran
      exact .inr ⟨held, found, goes held ran⟩

/-- What is said of a result changes nothing of what is left. -/
theorem run_of_returning {task : Task α} {change : α → β} {reply : Except ClientError β}
    (ran : (do return change (← task) : Task β).run.run holdings engine = ((reply, after), last)) :
    ∃ result, task.run.run holdings engine = ((result, after), last) := by
  rw [run_bind] at ran
  cases ended : task.run.run holdings engine with
  | mk outcome middle =>
      obtain ⟨result, left⟩ := outcome
      rw [ended] at ran
      cases result <;> (cases ran; exact ⟨_, rfl⟩)

/-- An operation is a use of an embedder if it leaves of it what the use does. -/
theorem used_of_putBack {E : Type} {held : HeldEmbedder} {use : EmbedderKind.Use} {name : String}
    {reply : Except ClientError β} (operation : Step (Except EmbeddingError α × E))
    (wrap : E → HeldEmbedder) (change : α → β)
    (used : held.use engine use = (wrap (operation engine).1.2, (operation engine).2))
    (ran : (do return change (← putBack name wrap operation) : Task β).run.run holdings engine =
      ((reply, after), last)) :
    after = embedderSlot.put holdings name (held.use engine use).1 ∧
      last = (held.use engine use).2 := by
  obtain ⟨result, ran⟩ := run_of_returning ran
  have stored : (putBack name wrap operation).run.run holdings engine =
      (Task.ofExcept .embedding (operation engine).1.1).run.run
        (embedderSlot.put holdings name (wrap (operation engine).1.2)) (operation engine).2 := rfl
  rw [stored] at ran
  rw [used]
  cases said : (operation engine).1.1 <;> (rw [said] at ran; cases ran; exact ⟨rfl, rfl⟩)

theorem run_get (holdings : Holdings) (engine : Engine) :
    (get : Task Holdings).run.run holdings engine = ((.ok holdings, holdings), engine) := rfl

/-- An operation on an embedder uses it, if what it leaves of either kind is what the use leaves. -/
theorem onEmbedder_uses {name : String} {use : EmbedderKind.Use} {reply : Except ClientError Reply}
    {dense : DenseEmbedder → Holdings → Step (Except EmbeddingError α × DenseEmbedder)}
    {sparse : SparseEmbedder → Holdings → Step (Except EmbeddingError β × SparseEmbedder)}
    {denseReply : α → Reply} {sparseReply : β → Reply}
    (denseUsed : ∀ embedder, DenseEmbedder.kind.use (embedder, engine) use =
      EmbedderKind.remains (dense embedder holdings engine))
    (sparseUsed : ∀ embedder, SparseEmbedder.kind.use (embedder, engine) use =
      EmbedderKind.remains (sparse embedder holdings engine))
    (ran : (onEmbedder name dense sparse denseReply sparseReply).run.run holdings engine =
      ((reply, after), last)) :
    Uses use name holdings engine after last := by
  refine uses_of_found _ (fun held went => ?_) ran
  rw [run_bind, run_get] at went
  obtain ⟨embedder, own⟩ := held
  cases embedder with
  | dense embedder =>
      refine used_of_putBack (dense embedder holdings) (⟨.dense ·, own⟩) denseReply ?_ went
      simp only [HeldEmbedder.use, denseUsed, EmbedderKind.remains]
  | sparse embedder =>
      refine used_of_putBack (sparse embedder holdings) (⟨.sparse ·, own⟩) sparseReply ?_ went
      simp only [HeldEmbedder.use, sparseUsed, EmbedderKind.remains]

theorem embed_uses {name : String} {documents : List String} {reply : Except ClientError Reply}
    (ran : (embed name documents).run.run holdings engine = ((reply, after), last)) :
    Uses (.embed holdings.host holdings.environment documents) name holdings engine after last :=
  onEmbedder_uses (fun _ => rfl) (fun _ => rfl) ran

theorem query_uses {name text : String} {reply : Except ClientError Reply}
    (ran : (query name text).run.run holdings engine = ((reply, after), last)) :
    Uses (.query holdings.host holdings.environment text) name holdings engine after last :=
  onEmbedder_uses (fun _ => rfl) (fun _ => rfl) ran

theorem close_uses {name : String} {reply : Except ClientError Reply}
    (ran : (close name).run.run holdings engine = ((reply, after), last)) :
    Uses .close name holdings engine after last :=
  onEmbedder_uses (fun _ => rfl) (fun _ => rfl) ran

end Task

/-- A step that gives up the embedder of a name, unless the name stands for something else. -/
def Drops (name : String) (holdings : Holdings) (engine : Engine) (after : Holdings)
    (last : Engine) : Prop :=
  after.embedders = holdings.embedders ∨ ∃ held, holdings.embedder? name = some held ∧
    after = embedderSlot.erase holdings name ∧ last = (held.embedder.discard engine).2

/-- A step that holds a new embedder under a name, if there is one; what the name stood for is
given up. -/
def Adds (name : String) (holdings : Holdings) (engine : Engine) (after : Holdings)
    (last : Engine) : Prop :=
  after.embedders = holdings.embedders ∨ ∃ fresh middle, fresh.embedder.sessions.entries = [] ∧
    middle.history = engine.history ∧ after = embedderSlot.put holdings name fresh ∧
      last = (holdings.embedder? name).elim middle fun old => (old.embedder.discard middle).2

namespace Task

variable {holdings after : Holdings} {engine last : Engine} {reply : Except ClientError Reply}

theorem discard_drops {name : String}
    (ran : (discard name).run.run holdings engine = ((reply, after), last)) :
    Drops name holdings engine after last := by
  unfold discard at ran
  rw [run_bind, run_get] at ran
  dsimp only at ran
  cases runtime : holdings.runtime? name with
  | some value =>
      rw [runtime] at ran
      cases ran
      exact .inl rfl
  | none =>
      cases session : holdings.session? name with
      | some value =>
          rw [runtime, session] at ran
          cases ran
          exact .inl rfl
      | none =>
          cases tensor : holdings.tensor? name with
          | some value =>
              rw [runtime, session, tensor] at ran
              cases ran
              exact .inl rfl
          | none =>
              cases found : holdings.embedder? name with
              | some held =>
                  rw [runtime, session, tensor, found] at ran
                  cases ran
                  exact .inr ⟨held, found, rfl, rfl⟩
              | none =>
                  rw [runtime, session, tensor, found] at ran
                  cases ran
                  exact .inl rfl

theorem run_keepEmbedder (name : String) (fresh : HeldEmbedder) (holdings : Holdings)
    (engine : Engine) :
    (keepEmbedder name fresh).run.run holdings engine =
      ((.ok (), embedderSlot.put holdings name fresh),
        (holdings.embedder? name).elim engine fun old => (old.embedder.discard engine).2) := by
  unfold keepEmbedder
  rw [run_bind, run_get]
  dsimp only
  cases holdings.embedder? name <;> rfl

/-- What is opened with nothing asked of the library and nothing cached in it is held. -/
theorem adds_of_opened {name : String} {E : Type} {action : Action EmbeddingError (E × Bool)}
    {wrap : E → Embedder} {result : Except ClientError E}
    (opens : ∀ made middle, action engine = .ok made middle →
      (wrap made.1).sessions.entries = [] ∧ middle.history = engine.history)
    (ran : (do
      let made ← Task.ofAction .embedding action
      keepEmbedder name ⟨wrap made.1, made.2⟩
      return made.1 : Task E).run.run holdings engine = ((result, after), last)) :
    Adds name holdings engine after last := by
  rw [run_bind, run_ofAction] at ran
  cases ended : action engine with
  | error error middle =>
      rw [ended] at ran
      cases ran
      exact .inl rfl
  | ok made middle =>
      rw [ended] at ran
      dsimp only at ran
      rw [run_bind, run_keepEmbedder] at ran
      cases ran
      obtain ⟨empty, same⟩ := opens made middle ended
      exact .inr ⟨_, middle, empty, same, rfl, rfl⟩

theorem ok_of_map {change : α → β} {action : Action ε α} {engine last : Engine} {result : β}
    (ended : (change <$> action) engine = .ok result last) :
    ∃ value, action engine = .ok value last ∧ change value = result := by
  change EStateM.map change action engine = _ at ended
  unfold EStateM.map at ended
  cases made : action engine with
  | ok value middle =>
      rw [made] at ended
      cases ended
      exact ⟨value, rfl, rfl⟩
  | error error middle =>
      rw [made] at ended
      cases ended

theorem openEmbedder_adds {C E ρ : Type} (kind : EmbedderKind C E ρ) {wrap : E → Embedder}
    (cached : ∀ embedder, (wrap embedder).sessions = kind.sessions embedder) {name model : String}
    {tokenizer : TokenizerSource} {config : C} {result : Except ClientError E}
    (ran : (openEmbedder kind wrap name model tokenizer config).run.run holdings engine =
      ((result, after), last)) : Adds name holdings engine after last := by
  have begins {fresh middle} (opens : kind.Opens model config engine fresh middle) :
      (wrap fresh).sessions.entries = [] ∧ middle.history = engine.history := by
    obtain ⟨⟨capacity, made⟩, same⟩ := opens.begins
    rw [cached]
    exact ⟨(SessionCache.consistent_of_new made).2.1, same⟩
  unfold openEmbedder at ran
  rw [run_bind, run_get] at ran
  cases tokenizer with
  | file path =>
      refine adds_of_opened (fun made middle ended => ?_) ran
      obtain ⟨fresh, opened, rfl⟩ := ok_of_map ended
      exact begins (.read opened)
  | given tokenizer =>
      refine adds_of_opened (fun made middle ended => ?_) ran
      obtain ⟨fresh, opened, rfl⟩ := ok_of_map ended
      exact begins (.opened opened)

/-- Without settings nothing is opened. -/
theorem adds_of_required {config : Option α} {name : String} {next : α → Task Reply}
    (adds : ∀ config, (next config).run.run holdings engine = ((reply, after), last) →
      Adds name holdings engine after last)
    (ran : (Task.require .unreadable config >>= next).run.run holdings engine =
      ((reply, after), last)) : Adds name holdings engine after last := by
  rw [run_bind] at ran
  cases config with
  | none =>
      cases ran
      exact .inl rfl
  | some config => exact adds config ran

theorem openDense_adds {name model : String} {tokenizer : TokenizerSource} {config : Json}
    (ran : (openDense name model tokenizer config).run.run holdings engine =
      ((reply, after), last)) : Adds name holdings engine after last := by
  refine adds_of_required (fun config ran => ?_) ran
  obtain ⟨result, opened⟩ := run_of_returning ran
  exact openEmbedder_adds DenseEmbedder.kind (fun _ => rfl) opened

theorem openSparse_adds {name model : String} {tokenizer : TokenizerSource} {config : Json}
    {preProcessor : Option PreProcessor}
    (ran : (openSparse name model tokenizer config preProcessor).run.run holdings engine =
      ((reply, after), last)) : Adds name holdings engine after last := by
  refine adds_of_required (fun config ran => ?_) ran
  obtain ⟨result, opened⟩ := run_of_returning ran
  exact openEmbedder_adds SparseEmbedder.kind (fun _ => rfl) opened

end Task

/-- What an operation does with the embedders of a client: it leaves them alone, it uses one or
gives one up, or it holds a new one. -/
inductive Handled (holdings : Holdings) (engine : Engine) (after : Holdings) (last : Engine) : Prop
  | spared : after.embedders = holdings.embedders → Handled holdings engine after last
  | used {use name held} : (holdings.environment.Rooted → use.Rooted) →
      holdings.embedder? name = some held →
      after = embedderSlot.put holdings name (held.use engine use).1 →
      last = (held.use engine use).2 → Handled holdings engine after last
  | dropped {name held} : holdings.embedder? name = some held →
      after = embedderSlot.erase holdings name →
      last = (held.embedder.discard engine).2 → Handled holdings engine after last
  | added {name fresh middle} : fresh.embedder.sessions.entries = [] →
      middle.history = engine.history → after = embedderSlot.put holdings name fresh →
      last = (holdings.embedder? name).elim middle (fun old => (old.embedder.discard middle).2) →
      Handled holdings engine after last

variable {holdings after : Holdings} {engine last : Engine} {name : String}

theorem Uses.handled {use : EmbedderKind.Use} (uses : Uses use name holdings engine after last)
    (rooted : holdings.environment.Rooted → use.Rooted) : Handled holdings engine after last := by
  rcases uses with ⟨rfl, rfl⟩ | ⟨held, found, same, ended⟩
  · exact .spared rfl
  · exact .used rooted found same ended

theorem Drops.handled (drops : Drops name holdings engine after last) :
    Handled holdings engine after last := by
  rcases drops with same | ⟨held, found, same, ended⟩
  · exact .spared same
  · exact .dropped found same ended

theorem Adds.handled (adds : Adds name holdings engine after last) :
    Handled holdings engine after last := by
  rcases adds with same | ⟨fresh, middle, empty, history, same, ended⟩
  · exact .spared same
  · exact .added empty history same ended

theorem perform_handled {operation : Operation} {reply : Except ClientError Reply}
    (ran : perform operation holdings engine = ((reply, after), last)) :
    Handled holdings engine after last := by
  by_cases concerned : operation.onEmbedders = true
  · cases operation with
    | openDense name model tokenizer config => exact (Task.openDense_adds ran).handled
    | openSparse name model tokenizer config preProcessor =>
        exact (Task.openSparse_adds ran).handled
    | embed name documents => exact (Task.embed_uses ran).handled id
    | query name text => exact (Task.query_uses ran).handled id
    | close name => exact (Task.close_uses ran).handled fun _ => trivial
    | discard name => exact (Task.discard_drops ran).handled
    | _ => cases concerned
  · have same := Task.task_spares (by simpa using concerned) holdings engine
    rw [perform] at ran
    rw [ran] at same
    exact .spared same

end TextVectors.Client

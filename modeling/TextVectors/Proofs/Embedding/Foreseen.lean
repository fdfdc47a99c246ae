import TextVectors.Proofs.Embedding.Sizes

namespace TextVectors

/-! What embedding may fail with.

An embedder can be closed, its runtime can be down, a document can be refused, and the library can
fail.  All of that is reported from outside.  What embedders check among themselves is none of it.
-/

open Inference

variable {ε ε' α β : Type}

/-- What is being done while the parts of a batch session are created. -/
def creationTexts : List String :=
  [BatchSession.tokenText "input_ids", BatchSession.tokenText "attention_mask",
   BatchSession.tokenText "token_type_ids", "failed to create output tensor",
   "failed to create inference session"]

/-- What is being done while a batch session runs. -/
def runTexts : List String :=
  ["embedding inference failed", SparseEmbedder.runContext]

/-- The errors with which embedding may end, for an embedder that was given a tokenizer or is
closed. -/
inductive Foreseen (given : Option Tokenizer) : EmbeddingError → Prop
  | closed : given = none → Foreseen given .closed
  | notInitialized : Foreseen given .runtimeNotInitialized
  | preProcessor (position : Nat) (text : String) :
      Foreseen given (.preProcessorBreakdown position text)
  | tokenizing {tokenizer document error} (position : Nat) : given = some tokenizer →
      tokenizer.encode document = .error error →
      Foreseen given (.context s!"failed to tokenize document {position}" (.tokenizer error))
  | encoding {tokenizer document encoding fault} (position : Nat) : given = some tokenizer →
      tokenizer.encode document = .ok encoding → encoding.check = .error fault →
      Foreseen given (.context s!"encoding {position}" (.invalidInput fault))
  | sliding {tokenizer document error} (position : Nat) : given = some tokenizer →
      tokenizer.encode document = .error error →
      Foreseen given (.context s!"failed to tokenize sliding windows for document {position}"
        (.tokenizer error))
  | slidingEncoding {tokenizer document encoding fault} (position : Nat) :
      given = some tokenizer → tokenizer.encode document = .ok encoding →
      encoding.check = .error fault →
      Foreseen given (.context s!"failed to tokenize sliding windows for document {position}"
        (.invalidInput fault))
  | dimension {size} : signedLimit ≤ size → Foreseen given (.invalidInput (.dimensionOverflow size))
  | creating {text} (error : RuntimeError) : text ∈ creationTexts →
      Foreseen given (.context text (.runtime error))
  /-- A run is only refused by the library itself. -/
  | running {text} (code : StatusCode) (reason : String) : text ∈ runTexts →
      Foreseen given (.context text (.runtime (.native NativeFunction.run.name code reason)))
  | index {index} : halfWordLimit ≤ index → Foreseen given (.invalidInput (.indexTooLarge index))
  | label {tokenizer index error} : given = some tokenizer →
      tokenizer.decode [index] false = .error error →
      Foreseen given (.context s!"failed to decode sparse index {index}" (.tokenizer error))

/-- However an operation starts, its error is of some kind if it fails. -/
def FailsAs (kind : ε → Prop) (action : Action ε α) : Prop :=
  Attains (fun _ => True) action (fun _ _ => True) (fun error _ => kind error)

namespace FailsAs

variable {kind : ε → Prop} {action : Action ε α} {next : α → Action ε β}

theorem ofPure (value : α) : FailsAs kind (pure value : Action ε α) :=
  Attains.ofPure fun _ _ => trivial

theorem ofExcept {result : Except ε α} (fails : ∀ error, result = .error error → kind error) :
    FailsAs kind (TextVectors.ofExcept result) :=
  Attains.ofExcept (fun _ _ _ _ => trivial) fun error failed _ _ => fails error failed

theorem ofStep (step : Step α) : FailsAs kind (liftM step : Action ε α) :=
  fun _ _ => trivial

theorem bind (first : FailsAs kind action) (rest : ∀ value, FailsAs kind (next value)) :
    FailsAs kind (action >>= next) :=
  Attains.bind first rest

theorem ofMapFailure {kind : ε' → Prop} {wrap : ε → ε'}
    (fails : FailsAs (fun error => kind (wrap error)) action) :
    FailsAs kind (mapFailure wrap action) :=
  Attains.ofMapFailure fails

theorem orCleanUp (fails : FailsAs kind action) (cleanup : Step Unit) :
    FailsAs kind (orCleanUp cleanup action) :=
  Attains.orCleanUp fails fun _ _ why => why

end FailsAs

/-- A call fails in the library or not at all. -/
theorem Engine.request_failsAs {kind : RuntimeError → Prop} {call : Call}
    (native : ∀ code reason, kind (.native call.function.name code reason)) :
    FailsAs kind (request call) := by
  intro engine _
  rcases request_cases call engine with ⟨code, text, answered⟩ | ⟨outcome, -, -, done⟩
  · rw [request_failure answered]
    exact native _ _
  · rw [done]
    trivial

/-- So does a run, once everything is bound. -/
theorem BoundModel.Fits.run_fails {model : BoundModel} {batch : Nat} {bundle : BatchSession}
    (fits : model.Fits batch bundle) {engine : Engine} {error : RuntimeError}
    (failed : (bundle.run engine).1.1 = .error error) :
    ∃ code reason, error = .native NativeFunction.run.name code reason := by
  obtain ⟨handle, live⟩ := Option.isSome_iff_exists.mp fits.live
  obtain ⟨inputsBound, outputsBound⟩ := fits.bound
  have asked (call : Call) (running : call.function = .run) :
      FailsAs (fun error => ∃ code reason, error = .native NativeFunction.run.name code reason)
        (Engine.request call) :=
    Engine.request_failsAs fun code reason => by
      rw [running]
      exact ⟨code, reason, rfl⟩
  have ran : Attains (fun _ => True) (bundle.session.run bundle.operands [bundle.output.value])
      (fun _ _ => True)
      fun cause _ => ∃ code reason, cause.error = .native NativeFunction.run.name code reason := by
    intro engine _
    rw [Session.run_bound live inputsBound outputsBound]
    exact Engine.requestRun_attains (asked _ rfl) engine trivial
  have reached := BatchSession.run_ensures (fun error _ =>
    ∃ code reason, error = .native NativeFunction.run.name code reason) ran engine trivial
  dsimp only at reached
  rw [failed] at reached
  exact reached

variable {given : Option Tokenizer}

theorem foreseen_dimension {size : Nat} {fault : InputFault}
    (failed : dimension size = .error fault) : Foreseen given (.invalidInput fault) := by
  unfold dimension at failed
  split at failed
  · cases failed
  · rename_i large
    cases failed
    exact .dimension (Nat.not_lt.mp large)

theorem foreseen_dimensions {sizes : List Nat} {fault : InputFault}
    (failed : sizes.mapM dimension = .error fault) : Foreseen given (.invalidInput fault) := by
  induction sizes with
  | nil => cases failed
  | cons size rest ih =>
      rw [List.mapM_cons] at failed
      rcases error_of_bind failed with first | ⟨dim, -, failed⟩
      · exact foreseen_dimension first
      · rcases error_of_bind failed with others | ⟨dims, -, absurd⟩
        · exact ih others
        · cases absurd

/-- Creating a batch session fails on a size or in the library. -/
theorem BatchSession.create_failsAs (host : Host) (runtime : Runtime) (binding : ModelBinding)
    (batch : Nat) (outputShape : List Int) :
    FailsAs (Foreseen given) (create host runtime binding batch outputShape) := by
  have sized (size : Nat) : FailsAs (Foreseen given)
      (mapFailure EmbeddingError.invalidInput (ofExcept (dimension size))) :=
    Attains.ofMapFailure (FailsAs.ofExcept fun _ => foreseen_dimension)
  have part {text : String} (listed : text ∈ creationTexts) {γ : Type}
      (action : Action RuntimeError γ) :
      FailsAs (Foreseen given) (mapFailure (failing text) action) :=
    .ofMapFailure ((Attains.anything action).weaken (fun _ _ _ => trivial)
      fun error _ _ => .creating error listed)
  have tokens (shape : Shape) {name : String} (listed : tokenText name ∈ creationTexts) :
      FailsAs (Foreseen given) (tokenTensor runtime shape name) :=
    part listed _
  unfold create
  refine (sized batch).bind fun rows => (sized binding.sequenceLength).bind fun columns => ?_
  refine (tokens _ (by simp [creationTexts])).bind fun ids => ?_
  refine ((tokens _ (by simp [creationTexts])).orCleanUp _).bind fun mask => ?_
  dsimp only
  rw [ite_bind]
  refine FailsAs.bind ?_ fun types => ?_
  · split
    · exact ((tokens _ (by simp [creationTexts])).orCleanUp _).bind fun tensor => .ofPure _
    · exact .ofPure none
  refine ((part (by simp [creationTexts]) _).orCleanUp _).bind fun output => ?_
  refine ((part (by simp [creationTexts]) _).orCleanUp _).bind fun session => ?_
  exact (FailsAs.ofStep _).bind fun _ => .ofPure _

namespace EmbedAction

open SessionCache

variable {model : BoundModel} {tokenizer : Tokenizer} {host : Host} {batch : Nat}

/-- Only the errors of a cache are looked at, which are those of creating sessions. -/
def creating (given : Option Tokenizer) : Custody Engine BatchSession ℕ where
  accounts _ _ := True
  share _ := 0
  fits _ _ := True
  refuses _ error := Foreseen given error
  sticks _ := False

theorem creating_lawful {source : Source}
    (shaped : ∀ batch error, source.outputShape batch = .error error → Foreseen given error) :
    (creating given).Lawful source.actions where
  noted _ _ _ := trivial
  created := by
    intro batch engine others result after _ ran
    have fails : FailsAs (Foreseen given) (source.create batch) :=
      (FailsAs.ofExcept (shaped batch)).bind fun shape =>
        BatchSession.create_failsAs source.host source.runtime source.binding batch shape
    have reached := Attains.ensures_attempt fails engine trivial
    change attempt (source.create batch) engine = (result, after) at ran
    rw [ran] at reached
    cases result with
    | ok bundle => exact .inl ⟨bundle, rfl, trivial, trivial⟩
    | error error => exact .inr ⟨error, rfl, reached, trivial⟩
  destroyed := by
    intro batch bundle engine others result after _ _ ran
    cases ran
    exact ⟨trivial, nofun⟩

theorem acquire_foreseen {source : Source} (positive : batch ≠ 0)
    (shaped : ∀ batch error, source.outputShape batch = .error error → Foreseen given error) :
    Attains (fun state => state.sessions.Consistent) (acquire source batch) (fun _ _ => True)
      (fun error _ => Foreseen given error) := by
  intro state consistent
  have guarded : (creating given).Guarded state.sessions state.engine 0 :=
    ⟨consistent, fun _ _ => trivial, trivial⟩
  unfold acquire
  cases ran : state.sessions.acquire source.actions batch state.engine with
  | mk outcome engine =>
      obtain ⟨result, sessions⟩ := outcome
      obtain ⟨-, -, -, failed⟩ := guarded.acquire (creating_lawful shaped) ran
      cases result with
      | ok bundle => trivial
      | error error =>
          rcases failed error rfl with absurd | why | ⟨failure, sticky⟩
          · exact (positive absurd).elim
          · exact why
          · exact sticky.elim

/-- An action that leaves a state fit for use, with a good value or with a foreseen error, whatever
the library does. -/
def Delivers (model : BoundModel) (tokenizer : Tokenizer) (action : EmbedAction α)
    (good : α → Prop) : Prop :=
  Attains (Ready model tokenizer .unknown) action
    (fun value state => Ready model tokenizer .unknown state ∧ good value)
    (fun error state => Ready model tokenizer .unknown state ∧ Foreseen (some tokenizer) error)

namespace Delivers

variable {action : EmbedAction α} {next : α → EmbedAction β} {good better : α → Prop}
variable {goodLast : β → Prop}

theorem ofPure {value : α} (holds : good value) :
    Delivers model tokenizer (pure value : EmbedAction α) good :=
  Attains.ofPure fun _ ready => ⟨ready, holds⟩

theorem bind (first : Delivers model tokenizer action good)
    (rest : ∀ value, good value → Delivers model tokenizer (next value) goodLast) :
    Delivers model tokenizer (action >>= next) goodLast :=
  Attains.bind first fun value state reached => rest value reached.2 state reached.1

theorem weaken (delivered : Delivers model tokenizer action good)
    (implied : ∀ value, good value → better value) : Delivers model tokenizer action better :=
  Attains.weaken delivered (fun value _ reached => ⟨reached.1, implied value reached.2⟩)
    fun _ _ reached => reached

/-- An action that ends in the same way in every state. -/
theorem ofReaches {result : Except EmbeddingError α}
    (reaches : Attains (Ready model tokenizer .unknown) action
      (fun value after => Ready model tokenizer .unknown after ∧ result = .ok value)
      (fun error after => Ready model tokenizer .unknown after ∧ result = .error error))
    (fails : ∀ error, result = .error error → Foreseen (some tokenizer) error) :
    Delivers model tokenizer action fun value => result = .ok value :=
  Attains.weaken reaches (fun _ _ reached => reached)
    fun error _ reached => ⟨reached.1, fails error reached.2⟩

theorem ofApart {action : Action EmbeddingError α} {result : Except EmbeddingError α}
    (apart : Apart action result)
    (fails : ∀ error, result = .error error → Foreseen (some tokenizer) error) :
    Delivers model tokenizer (ofAction action) fun value => result = .ok value :=
  .ofReaches (ofAction_reaches apart .unknown) fails

theorem ofExcept {result : Except EmbeddingError α}
    (fails : ∀ error, result = .error error → Foreseen (some tokenizer) error) :
    Delivers model tokenizer (EmbedAction.ofExcept result) fun value => result = .ok value :=
  .ofApart (.ofExcept result) fails

theorem bindStep {step : Step α} {value : α} {next : α → EmbedAction β}
    (apart : Apart (liftM step : Action EmbeddingError α) (.ok value))
    (rest : Delivers model tokenizer (next value) goodLast) :
    Delivers model tokenizer (ofStep step >>= next) goodLast := by
  refine Attains.bind (ofAction_reaches apart .unknown |>.weaken (fun _ _ reached => reached) ?_)
    fun found => ?_
  · exact fun _ _ reached => nomatch reached.2
  · intro state reached
    obtain ⟨ready, same⟩ := reached
    cases same
    exact rest state ready

theorem mapM {operation : α → EmbedAction β} {admissible : α → Prop}
    (each : ∀ value, admissible value → Delivers model tokenizer (operation value) goodLast)
    {values : List α} (given : ∀ value ∈ values, admissible value) :
    Delivers model tokenizer (values.mapM operation) fun results =>
      results.length = values.length ∧ ∀ result ∈ results, goodLast result := by
  induction values with
  | nil => exact .ofPure ⟨rfl, by simp⟩
  | cons value rest ih =>
      rw [List.mapM_cons]
      refine (each value (given value List.mem_cons_self)).bind fun result holds => ?_
      refine (ih fun other member => given other (List.mem_cons_of_mem _ member)).bind
        fun results reached => .ofPure ⟨?_, fun other member => ?_⟩
      · rw [List.length_cons, List.length_cons, reached.1]
      · rcases List.mem_cons.mp member with rfl | later
        · exact holds
        · exact reached.2 other later

end Delivers

section Batches

variable {fill : BatchSession → Except EmbeddingError Unit × BatchSession}
variable {write : TokenBuffers → Except EmbeddingError Unit × TokenBuffers}
variable {fillFailure : EmbeddingError → EmbeddingError}

theorem acquire_delivers (runtime : Runtime) (positive : batch ≠ 0)
    (shaped : ∀ batch error, model.outputShape batch = .error error →
      Foreseen (some tokenizer) error) :
    Attains (Ready model tokenizer .unknown) (acquire (model.source host runtime) batch)
      (Stored model tokenizer .unknown batch)
      (fun error state => Ready model tokenizer .unknown state ∧
        Foreseen (some tokenizer) error) := by
  intro state ready
  have reaches : Attains (Ready model tokenizer .unknown)
      (acquire (model.source host runtime) batch) _ _ :=
    acquire_reaches runtime batch fun known => absurd rfl known
  have foreseen : Attains _ (acquire (model.source host runtime) batch) _
      (fun error _ => Foreseen (some tokenizer) error) :=
    acquire_foreseen positive shaped
  exact (reaches.both foreseen).weaken (fun _ _ reached => reached.1.1)
    (fun _ _ reached => ⟨reached.1.1, reached.2⟩) state ⟨ready, ready.guarded.consistent⟩

/-- Filling fails as it would on blank buffers. -/
theorem prepare_delivers (writes : Writes batch model.binding.sequenceLength fill write)
    (runtime : Runtime) (positive : batch ≠ 0)
    (shaped : ∀ batch error, model.outputShape batch = .error error →
      Foreseen (some tokenizer) error)
    (filling : ∀ tokens outputs error, model.sizes batch = .ok (tokens, outputs) →
      (write (.blank model.binding.usesTokenTypes tokens)).1 = .error error →
      Foreseen (some tokenizer) (fillFailure error)) :
    Attains (Ready model tokenizer .unknown)
      (prepare (model.source host runtime) batch fill fillFailure)
      (Stored model tokenizer .unknown batch)
      (fun error state => Ready model tokenizer .unknown state ∧
        Foreseen (some tokenizer) error) := by
  refine Attains.bind (acquire_delivers runtime positive shaped) fun bundle => ?_
  intro state stored
  have fits := stored.fits
  have formed := fits.formed
  have same := writes.overwrites.sizes bundle.buffers
  rw [writes.fills bundle formed.batch formed.sequenceLength]
  refine Attains.bind (store_reaches bundle (fits.setBuffers same) rfl) (fun _ => ?_) state stored
  intro state stored
  cases outcome : (write bundle.buffers).1 with
  | error error =>
      rw [writes.overwrites.result, fits.cleared fits.sized] at outcome
      exact ⟨stored.ready, filling _ _ error fits.sized outcome⟩
  | ok _ => exact stored

theorem runBatch_delivers (writes : Writes batch model.binding.sequenceLength fill write)
    (runtime : Runtime) (positive : batch ≠ 0)
    (shaped : ∀ batch error, model.outputShape batch = .error error →
      Foreseen (some tokenizer) error)
    (filling : ∀ tokens outputs error, model.sizes batch = .ok (tokens, outputs) →
      (write (.blank model.binding.usesTokenTypes tokens)).1 = .error error →
      Foreseen (some tokenizer) (fillFailure error))
    {runContext : String} (listed : runContext ∈ runTexts) :
    Delivers model tokenizer
      (runBatch (model.source host runtime) batch fill fillFailure runContext)
      (model.Fits batch) := by
  rw [runBatch_eq]
  refine Attains.bind (prepare_delivers writes runtime positive shaped filling) fun bundle => ?_
  intro state stored
  have fails : Attains (fun after => after = state) (runStored bundle runContext)
      (fun _ _ => True) (fun error _ => Foreseen (some tokenizer) error) := by
    rintro _ rfl
    apply runStored_ends
    intro changed _
    refine ⟨fun _ => trivial, fun error failed => ?_⟩
    obtain ⟨code, reason, rfl⟩ := stored.fits.run_fails failed
    exact .running code reason listed
  have runs : Attains (Stored model tokenizer .unknown batch bundle)
      (runStored bundle runContext) _ _ := runStored_kept bundle runContext model.lasts_unknown
  refine (runs.both fails).weaken ?_ (fun _ _ reached => reached) state ⟨stored, rfl⟩
  exact fun changed last reached => ⟨reached.1.1.ready, reached.1.1.fits⟩

end Batches

end EmbedAction

end TextVectors

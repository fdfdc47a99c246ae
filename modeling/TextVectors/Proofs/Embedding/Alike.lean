import TextVectors.Proofs.Embedding.Batches

namespace TextVectors

/-! How embedders are opened, and how their embedding starts and ends. -/

open Inference EmbedAction

variable {tokenizer : Tokenizer} {engine later : Engine} {model : BoundModel}

theorem askEncode_apart {ε : Type} (tokenizer : Tokenizer) (text : String) :
    Apart (liftM (tokenizer.askEncode text) : Action ε (Except TokenizerError Encoding))
      (.ok (tokenizer.encode text)) :=
  fun engine => ⟨(Engine.consult (.encode text) engine).2, rfl, rfl, rfl⟩

/-- The encodings of documents, or the error with which the first one fails. -/
def encodingsOf (tokenizer : Tokenizer) :
    Nat → List String → Except EmbeddingError (List Encoding)
  | _, [] => .ok []
  | position, document :: rest => do
      let encoding ← (tokenizer.encode document).mapError fun error =>
        .context s!"failed to tokenize document {position}" (.tokenizer error)
      return encoding :: (← encodingsOf tokenizer (position + 1) rest)

theorem encodeAll_apart (tokenizer : Tokenizer) (position : Nat) (documents : List String) :
    Apart (encodeAll tokenizer position documents) (encodingsOf tokenizer position documents) := by
  induction documents generalizing position with
  | nil => exact .ofPure []
  | cons document rest ih =>
      rw [encodeAll, encodingsOf]
      let following (result : Except TokenizerError Encoding) :
          Except EmbeddingError (List Encoding) := do
        let encoding ← result.mapError fun error =>
          .context s!"failed to tokenize document {position}" (.tokenizer error)
        return encoding :: (← encodingsOf tokenizer (position + 1) rest)
      change Apart _ (.ok (tokenizer.encode document) >>= following)
      refine Apart.bind (askEncode_apart tokenizer document) fun result => ?_
      cases result with
      | error error => exact .ofThrow _
      | ok encoding => exact .bind (ih (position + 1)) fun _ => .ofPure _

/-- What shows of documents that are embedded as the rows of one batch. -/
def BoundModel.rowsAnswer {ρ : Type} (model : BoundModel) (tokenizer : Tokenizer)
    (reduce : Reduction ρ) (documents : List String) : Transcript (List ρ) := do
  let encodings ← .ofExcept (encodingsOf tokenizer 0 documents)
  let (output, mask) ← model.ran documents.length
    (writeEncodings documents.length model.binding.sequenceLength encodings) id
  .ofExcept ((reduce output mask documents.length).mapError .invalidInput)

theorem EmbedAction.embedRows_regular {ρ : Type} (model : BoundModel) (tokenizer : Tokenizer)
    (host : Host) (runtime : Runtime) (reduce : Reduction ρ) (runContext : String)
    (documents : List String) :
    Regular model tokenizer (host.files.present model.binding.modelPath = true)
      (embedRows (model.source host runtime) tokenizer reduce runContext documents) id
      (model.rowsAnswer tokenizer reduce documents) := by
  refine (ofAction_regular (encodeAll_apart tokenizer 0 documents)).bindPlain fun encodings => ?_
  have writes := fillEncodings_writes documents.length model.binding.sequenceLength encodings
  exact (runBatch_regular writes runtime id runContext).bind (fun seen => EmbedAction.ofExcept
    ((reduce seen.1 seen.2 documents.length).mapError .invalidInput)) (fun _ => rfl)
      fun _ => ofExcept_regular _

/-- Nothing is asked of the library to open an embedder, and its model must be there. -/
structure Opening (host : Host) (modelPath : String) (engine after : Engine) : Prop where
  present : host.files.present modelPath = true
  history : after.history = engine.history
  behaviour : after.behaviour = engine.behaviour

theorem present_of_checkFile {host : Host} {path subject : String}
    (usable : checkFile host path subject = .ok ()) : host.files.present path = true := by
  unfold checkFile at usable
  split at usable
  · cases usable
  · split at usable
    · rename_i regular
      unfold FileTree.isFile FileTree.content? at regular
      unfold FileTree.present
      cases located : host.files.locate path with
      | ok place => rfl
      | error fault =>
          rw [located] at regular
          cases regular
    · cases usable

theorem checkFile_opening (host : Host) (modelPath subject : String) (engine : Engine) :
    Attains (· = engine) (TextVectors.ofExcept (checkFile host modelPath subject))
      (fun _ after => Opening host modelPath engine after) (fun _ _ => True) := by
  refine Attains.ofExcept (fun _ passed after same => ?_) fun _ _ _ _ => trivial
  subst same
  exact ⟨present_of_checkFile passed, rfl, rfl⟩

theorem ofExcept_leaves {ε α : Type} (holds : Engine → Prop) (result : Except ε α) :
    Attains holds (TextVectors.ofExcept result)
      (fun value engine => holds engine ∧ result = .ok value)
      (fun _ _ => True) :=
  .ofExcept (fun _ found _ held => ⟨held, found⟩) fun _ _ _ _ => trivial

theorem ofExcept_keeps {ε α : Type} (holds : Engine → Prop) (result : Except ε α) :
    Attains holds (TextVectors.ofExcept result) (fun _ => holds) (fun _ _ => True) :=
  (ofExcept_leaves holds result).weaken (fun _ _ left => left.1) fun _ _ _ => trivial

/-- Nothing is asked of the library to load a tokenizer. -/
theorem loadTokenizer_keeps (host : Host) (path : String) (base : History) :
    Attains (fun engine => engine.history = base) (loadTokenizer host path)
      (fun _ engine => engine.history = base) (fun _ _ => True) :=
  Attains.bind (ofExcept_keeps _ _) fun _ _ kept => kept

namespace EmbedAction

/-- A new cache is fit for use. -/
theorem ready_of_new {capacity : Nat} {sessions : SessionCache BatchSession}
    (made : SessionCache.new capacity = .ok sessions) (model : BoundModel) (tokenizer : Tokenizer)
    (engine : Engine) : Ready model tokenizer .unknown { sessions, labels := [], engine } where
  guarded := Custody.guarded_of_new made
    ⟨trivial, fun _ absurd => (Multiset.notMem_zero _ absurd).elim⟩
  labelled _ absurd := nomatch absurd

variable {state : EmbedState}

/-- Whatever else the library is used for, a state stays fit for use. -/
theorem Ready.elsewhere (ready : Ready model tokenizer .unknown state) {newer : History}
    (grown : later.history = newer ++ state.engine.history) :
    Ready model tokenizer .unknown { state with engine := later } where
  guarded := by
    refine ⟨ready.guarded.consistent, ready.guarded.suited, trivial, fun handle member => ?_⟩
    have made := (ready.guarded.vouched.2 handle member).append newer
    rw [← grown] at made
    exact made
  labelled := ready.labelled

/-- Labels that are forgotten are asked for again. -/
theorem Ready.forgetful (ready : Ready model tokenizer .unknown state)
    {labels : List (Nat × String)} (among : labels ⊆ state.labels) :
    Ready model tokenizer .unknown { state with labels } where
  guarded := ready.guarded
  labelled entry member := ready.labelled entry (among member)

/-- How embedding ends for the caller, who keeps the state in some form. -/
def concluded {α κ : Type} (keep : EmbedState → κ) :
    EStateM.Result EmbeddingError EmbedState α → (Except EmbeddingError α × κ) × Engine
  | .ok value after => ((.ok value, keep after), after.engine)
  | .error error after => ((.error error, keep after), after.engine)

variable {α κ : Type} {keep : EmbedState → κ} {ending : EStateM.Result EmbeddingError EmbedState α}

theorem concluded_of_ends (keep : EmbedState → κ) {holds : EmbedState → Prop}
    (ends : EndsIn (fun _ => holds) (fun _ => holds) ending) :
    ∃ after, holds after ∧ (concluded keep ending).1.2 = keep after ∧
      (concluded keep ending).2 = after.engine := by
  cases ending with
  | ok value after => exact ⟨after, ends, rfl, rfl⟩
  | error error after => exact ⟨after, ends, rfl, rfl⟩

theorem concluded_alike {result : Except EmbeddingError α} {handed : List NamedBuffers}
    (ends : EndsIn
      (fun value after => result = .ok value ∧ after.engine.handedSince engine = handed)
      (fun error after => result = .error error ∧ after.engine.handedSince engine = handed)
      ending) :
    (concluded keep ending).1.1 = result ∧
      (concluded keep ending).2.handedSince engine = handed := by
  cases ending with
  | ok value after => exact ⟨ends.1.symm, ends.2⟩
  | error error after => exact ⟨ends.1.symm, ends.2⟩

end EmbedAction

end TextVectors

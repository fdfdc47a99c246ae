import TextVectors.Embedding.Sparse
import TextVectors.Proofs.Embedding.Kind
import TextVectors.Proofs.Entries

namespace TextVectors.SparseEmbedder

/-! What shows of a sparse embedder's work depends on nothing that it remembers. -/

open Inference EmbedAction

abbrev InUse (modelPath : String) (tokenizer : Tokenizer) (config : SparseConfig) :
    SparseEmbedder → Engine → Prop :=
  kind.InUse modelPath tokenizer config

/-- An embedder as it is configured, with some sessions and without labels. -/
def configured (modelPath : String) (tokenizer : Tokenizer) (config : SparseConfig)
    (vocabularySize : Nat) (sessions : SessionCache BatchSession) : SparseEmbedder :=
  kind.configured modelPath tokenizer { config with vocabularySize } sessions

theorem settle_ok {tokenizer : Tokenizer} {config settled : SparseConfig}
    (succeeded : settle tokenizer config = .ok settled) :
    ∃ size, deriveVocabulary config.vocabularySize tokenizer = .ok size ∧
      settled = { config with vocabularySize := size } := by
  obtain ⟨size, derived, succeeded⟩ := ok_of_bind succeeded
  cases succeeded
  exact ⟨size, derived, rfl⟩

variable {embedder : SparseEmbedder} {tokenizer : Tokenizer} {host : Host} {model : BoundModel}
variable {usable : Prop}

def boundModel (embedder : SparseEmbedder) (compute : NamedBuffers → Nat → Float32) : BoundModel :=
  ⟨embedder.binding, fun batch => .ok (embedder.outputShape batch), compute⟩

/-- The documents as the pre-processor leaves them, or the breakdown at the first of them. -/
def preprocessed (preProcessor : Option PreProcessor) :
    Nat → List String → Except EmbeddingError (List String)
  | _, [] => .ok []
  | position, document :: rest =>
      match preProcessor with
      | none => .ok (document :: rest)
      | some processor => do
          let changed ← (processor.apply document).mapError fun payload =>
            .preProcessorBreakdown position payload.message
          return changed :: (← preprocessed preProcessor (position + 1) rest)

theorem preprocess_apart (preProcessor : Option PreProcessor) (position : Nat)
    (documents : List String) :
    Apart (preprocess preProcessor position documents)
      (preprocessed preProcessor position documents) := by
  induction documents generalizing position with
  | nil => exact .ofPure []
  | cons document rest ih =>
      cases preProcessor with
      | none => exact .ofPure (document :: rest)
      | some processor =>
          rw [preprocess]
          refine .afterwards (.ofConsult _) fun _ => ?_
          rw [preprocessed]
          cases processor.apply document with
          | error payload => exact .ofThrow _
          | ok changed => exact .bind (ih (position + 1)) fun _ => .ofPure _

/-- The windows of a document. -/
def windowsFor (embedder : SparseEmbedder) (tokenizer : Tokenizer) (document : String) :
    Except EmbeddingError (List Window) := do
  let encoding ← (tokenizer.encode document).mapError .tokenizer
  (Window.split encoding embedder.binding.sequenceLength embedder.stride
    embedder.binding.usesTokenTypes).mapError .invalidInput

theorem windowsOf_apart (embedder : SparseEmbedder) (tokenizer : Tokenizer) (document : String) :
    Apart (liftM (embedder.windowsOf tokenizer document) :
      Action EmbeddingError (Except EmbeddingError (List Window)))
      (.ok (embedder.windowsFor tokenizer document)) := by
  intro engine
  refine ⟨(Engine.consult (.encode document) engine).2, rfl, rfl, ?_⟩
  cases encoded : tokenizer.encode document with
  | error error =>
      simp only [windowsOf, windowsFor, Tokenizer.askEncode, encoded]
      rfl
  | ok encoding =>
      simp only [windowsOf, windowsFor, Tokenizer.askEncode, encoded]
      rfl

/-- What shows of embedding documents in one batch. -/
def fixedAnswer (embedder : SparseEmbedder) (tokenizer : Tokenizer)
    (compute : NamedBuffers → Nat → Float32) (documents : List String) :
    Transcript (List SparseVector) :=
  (embedder.boundModel compute).rowsAnswer tokenizer embedder.sparsifyRows documents

theorem embedFixed_regular (compute : NamedBuffers → Nat → Float32) (runtime : Runtime)
    (documents : List String) :
    Regular (embedder.boundModel compute) tokenizer
      (host.files.present embedder.binding.modelPath = true)
      (embedder.embedFixed (embedder.source host runtime) tokenizer documents) id
      (embedder.fixedAnswer tokenizer compute documents) :=
  embedRows_regular _ tokenizer host runtime embedder.sparsifyRows _ documents

/-- What shows of embedding one document in windows. -/
def windowsAnswer (embedder : SparseEmbedder) (tokenizer : Tokenizer)
    (compute : NamedBuffers → Nat → Float32) (position : Nat) (document : String) :
    Transcript SparseVector := do
  let windows ← .ofExcept ((embedder.windowsFor tokenizer document).mapError
    (.context s!"failed to tokenize sliding windows for document {position}"))
  let (output, mask) ← (embedder.boundModel compute).ran windows.length
    (writeWindows windows.length embedder.binding.sequenceLength windows)
    (.context s!"failed to prepare sliding window tensors for document {position}")
  let params := { embedder.params with threshold := Binary32.zero, topK := 0 }
  let perWindow ← .ofExcept ((Sparse.sparsify params output mask windows.length
    embedder.binding.sequenceLength embedder.vocabularySize).mapError .invalidInput)
  .ofExcept ((Sparse.mergeWindows perWindow embedder.params.threshold
    embedder.params.topK).mapError
      (.context s!"failed to merge sliding window embeddings for document {position}"))

theorem embedWindows_regular (compute : NamedBuffers → Nat → Float32) (runtime : Runtime)
    (position : Nat) (document : String) :
    Regular (embedder.boundModel compute) tokenizer
      (host.files.present embedder.binding.modelPath = true)
      (embedder.embedWindows (embedder.source host runtime) tokenizer position document) id
      (embedder.windowsAnswer tokenizer compute position document) := by
  refine .bindStep (windowsOf_apart embedder tokenizer document) ?_
  refine (ofExcept_regular _).bindPlain fun windows => ?_
  refine .bindStep (.ofNote _ _) ?_
  have writes := fillWindows_writes windows.length
    (embedder.boundModel compute).binding.sequenceLength windows
  let params := { embedder.params with threshold := Binary32.zero, topK := 0 }
  refine (runBatch_regular writes runtime _ _).bind (fun seen => EmbedAction.ofExcept
    ((Sparse.sparsify params seen.1 seen.2 windows.length embedder.binding.sequenceLength
      embedder.vocabularySize).mapError .invalidInput) >>= fun perWindow =>
    EmbedAction.ofExcept ((Sparse.mergeWindows perWindow embedder.params.threshold
      embedder.params.topK).mapError
        (.context s!"failed to merge sliding window embeddings for document {position}")))
    (fun _ => rfl) fun seen => ?_
  exact (ofExcept_regular _).bindPlain fun _ => ofExcept_regular _

/-- What shows of embedding documents one after the other. -/
def slidingAnswer (embedder : SparseEmbedder) (tokenizer : Tokenizer)
    (compute : NamedBuffers → Nat → Float32) : Nat → List String → Transcript (List SparseVector)
  | _, [] => return []
  | position, document :: rest => do
      let vector ← embedder.windowsAnswer tokenizer compute position document
      return vector :: (← embedder.slidingAnswer tokenizer compute (position + 1) rest)

theorem embedSliding_regular (compute : NamedBuffers → Nat → Float32) (runtime : Runtime)
    (position : Nat) (documents : List String) :
    Regular (embedder.boundModel compute) tokenizer
      (host.files.present embedder.binding.modelPath = true)
      (embedder.embedSliding (embedder.source host runtime) tokenizer position documents) id
      (embedder.slidingAnswer tokenizer compute position documents) := by
  induction documents generalizing position with
  | nil => exact .ofPure [] id
  | cons document rest ih =>
      exact (embedWindows_regular compute runtime position document).bindPlain fun _ =>
        (ih (position + 1)).bindPlain fun _ => .ofPure _ id

/-- The label of an index, whether or not it is remembered. -/
def labelFor (tokenizer : Tokenizer) (index : Nat) : Except EmbeddingError String :=
  if index ≥ halfWordLimit then .error (.invalidInput (.indexTooLarge index))
  else (tokenizer.decode [index] false).mapError fun error =>
    .context s!"failed to decode sparse index {index}" (.tokenizer error)

theorem labelOf_eq (tokenizer : Tokenizer) (index : Nat) (state : EmbedState) :
    labelOf tokenizer index state =
      match state.labels.lookup index with
      | some label => .ok label state
      | none =>
          if index ≥ halfWordLimit then .error (.invalidInput (.indexTooLarge index)) state
          else
            let asked : EmbedState :=
              { state with engine := (Engine.consult (.decode [index] false) state.engine).2 }
            match tokenizer.decode [index] false with
            | .error error =>
                .error (.context s!"failed to decode sparse index {index}" (.tokenizer error)) asked
            | .ok label => .ok label { asked with labels := (index, label) :: state.labels } := by
  rw [labelOf, get_bind_apply]
  cases state.labels.lookup index with
  | some label => rfl
  | none =>
      by_cases large : index ≥ halfWordLimit
      · simp only [if_pos large]
        rfl
      · cases decoded : tokenizer.decode [index] false <;>
          simp only [if_neg large, Tokenizer.askDecode, decoded] <;> rfl

/-- A label is looked up or asked for.  So labels are as if nothing were remembered under an
invariant that makes what is remembered true and is kept when the tokenizer answers and when it
fails. -/
theorem labelOf_follows {invariant : EmbedState → Prop} {index : Nat}
    (truthful : ∀ state, invariant state → ∀ entry ∈ state.labels,
      entry.1 < halfWordLimit ∧ tokenizer.decode [entry.1] false = .ok entry.2)
    (learns : ∀ state label, invariant state → state.labels.lookup index = none →
      index < halfWordLimit → tokenizer.decode [index] false = .ok label →
        invariant { state with
          engine := (Engine.consult (.decode [index] false) state.engine).2
          labels := (index, label) :: state.labels })
    (refused : ∀ state fault, invariant state → tokenizer.decode [index] false = .error fault →
      invariant { state with engine := (Engine.consult (.decode [index] false) state.engine).2 }) :
    Follows invariant (labelOf tokenizer index) (labelFor tokenizer index) := by
  intro state kept
  rw [labelOf_eq, labelFor]
  cases remembered : state.labels.lookup index with
  | some label =>
      obtain ⟨small, decoded⟩ := truthful state kept _ (mem_of_lookup remembered)
      rw [if_neg (Nat.not_le.mpr small), decoded]
      exact ⟨kept, rfl⟩
  | none =>
      by_cases large : index ≥ halfWordLimit
      · simp only [if_pos large]
        exact ⟨kept, rfl⟩
      · simp only [if_neg large]
        cases decoded : tokenizer.decode [index] false with
        | error fault => exact ⟨refused state fault kept decoded, rfl⟩
        | ok label =>
            exact ⟨learns state label kept remembered (Nat.not_le.mp large) decoded, rfl⟩

theorem labelOf_reaches (tokenizer : Tokenizer) (index : Nat) (outlook : Outlook) :
    Follows (Ready model tokenizer outlook) (labelOf tokenizer index)
      (labelFor tokenizer index) := by
  have asked (state : EmbedState) (ready : Ready model tokenizer outlook state) :
      Ready model tokenizer outlook
        { state with engine := (Engine.consult (.decode [index] false) state.engine).2 } :=
    ready.moved rfl rfl
  refine labelOf_follows (fun state ready => ready.labelled) ?_ fun state _ ready _ =>
    asked state ready
  intro state label ready _ small decoded
  exact ⟨(asked state ready).guarded,
    List.forall_mem_cons.mpr ⟨⟨small, decoded⟩, ready.labelled⟩⟩

theorem labelOf_regular (tokenizer : Tokenizer) (index : Nat) :
    Regular model tokenizer usable (labelOf tokenizer index) id
      (.ofExcept (labelFor tokenizer index)) :=
  .ofReaches (labelFor tokenizer index) (labelOf_reaches tokenizer index)

/-- A vector with the labels of its indices, or the error of the first that has none. -/
def labelled (tokenizer : Tokenizer) (vector : SparseVector) :
    Except EmbeddingError SparseVector := do
  if vector.isEmpty then return vector
  let labels ← vector.indices.mapM (labelFor tokenizer)
  return { vector with labels := some labels }

theorem attachLabels_regular (tokenizer : Tokenizer) (vector : SparseVector) :
    Regular model tokenizer usable (attachLabels tokenizer vector) id
      (.ofExcept (labelled tokenizer vector)) := by
  unfold attachLabels labelled
  split
  · exact .ofPure vector id
  · rw [Transcript.ofExcept_bind, Transcript.ofExcept_mapM]
    exact (Regular.mapM (labelOf_regular tokenizer) vector.indices).bindPlain fun _ => .ofPure _ id

/-- What shows of embedding documents, before labels are attached. -/
def plainAnswer (embedder : SparseEmbedder) (tokenizer : Tokenizer)
    (compute : NamedBuffers → Nat → Float32) (documents : List String) :
    Transcript (List SparseVector) :=
  if embedder.stride > 0 then embedder.slidingAnswer tokenizer compute 0 documents
  else embedder.fixedAnswer tokenizer compute documents

/-- What shows of the work on documents. -/
def shown (embedder : SparseEmbedder) (tokenizer : Tokenizer)
    (compute : NamedBuffers → Nat → Float32) (documents : List String) :
    Transcript (List SparseVector) := do
  let documents ← .ofExcept (preprocessed embedder.preProcessor 0 documents)
  let vectors ← embedder.plainAnswer tokenizer compute documents
  .ofExcept (if embedder.returnLabels then vectors.mapM (labelled tokenizer) else .ok vectors)

theorem work_shows : kind.Shows shown := by
  intro embedder tokenizer compute host runtime documents
  have labelling (vectors : List SparseVector) : Regular (embedder.boundModel compute) tokenizer
      (host.files.present embedder.binding.modelPath = true)
      (if embedder.returnLabels then vectors.mapM (attachLabels tokenizer) else return vectors) id
      (.ofExcept
        (if embedder.returnLabels then vectors.mapM (labelled tokenizer) else .ok vectors)) := by
    split
    · rw [Transcript.ofExcept_mapM]
      exact .mapM (attachLabels_regular tokenizer) vectors
    · exact .ofPure vectors id
  change Regular _ _ _ (embedder.work _ tokenizer documents) _ _
  unfold work shown
  refine (ofAction_regular (preprocess_apart embedder.preProcessor 0 documents)).bindPlain
    fun documents => ?_
  dsimp only [plainAnswer]
  by_cases sliding : embedder.stride > 0
  · rw [if_pos sliding, if_pos sliding]
    exact (embedSliding_regular compute runtime 0 documents).bindPlain labelling
  · rw [if_neg sliding, if_neg sliding]
    exact (embedFixed_regular compute runtime documents).bindPlain labelling

end TextVectors.SparseEmbedder

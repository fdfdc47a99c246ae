import TextVectors.Proofs.Embedding.Batching
import TextVectors.Proofs.Embedding.Foreseen

namespace TextVectors

/-! What embedders check among themselves never fails.

A batch session has exactly the cells that its sizes ask for, whatever rows are filled in fit, and
what comes out of a run can be pooled, reduced and merged.  So embedding ends with one result for
each document, or with an error that is reported from outside.
-/

open Inference EmbedAction

variable {α : Type} {tokenizer : Tokenizer} {documents : List String} {error : EmbeddingError}
variable {compute : NamedBuffers → Nat → Float32} {host : Host} {batch : Nat}

/-- What comes out of embedding documents: a good result for each of them, or a foreseen error. -/
def Delivered (given : Option Tokenizer) (documents : List String) (good : α → Prop) :
    Except EmbeddingError (List α) → Prop
  | .ok results => results.length = documents.length ∧ ∀ result ∈ results, good result
  | .error error => Foreseen given error

theorem BoundModel.fits_of_created (model : BoundModel) {runtime : Runtime} {before after : Engine}
    {bundle : BatchSession}
    (created : (model.source host runtime).create batch before = .ok bundle after) :
    model.Fits batch bundle := by
  have reached := model.create_attains (model.met_steady .unknown) host runtime batch
    (fun known => absurd rfl known) before trivial
  rw [created] at reached
  exact reached.2.1

theorem delivered_of_ends {κ : Type} {good : α → Prop} (keep : EmbedState → κ)
    {ending : EStateM.Result EmbeddingError EmbedState (List α)} {model : BoundModel}
    (ends : EndsIn
      (fun results state => Ready model tokenizer .unknown state ∧
        results.length = documents.length ∧ ∀ result ∈ results, good result)
      (fun error state => Ready model tokenizer .unknown state ∧ Foreseen (some tokenizer) error)
      ending) : Delivered (some tokenizer) documents good (concluded keep ending).1.1 := by
  cases ending with
  | ok results state => exact ends.2
  | error error state => exact ends.2

theorem runtimeOf_foreseen {environment : Environment} {given : Option Tokenizer}
    (failed : runtimeOf environment = .error error) : Foreseen given error := by
  unfold runtimeOf at failed
  split at failed
  · cases failed
  · cases failed
    exact .notInitialized

section Encodings

variable {encodings : List Encoding} {encoding : Encoding} {length tokens : Nat}

theorem encodingsOf_foreseen {position : Nat}
    (failed : encodingsOf tokenizer position documents = .error error) :
    Foreseen (some tokenizer) error := by
  induction documents generalizing position with
  | nil => cases failed
  | cons document rest ih =>
      rcases error_of_bind failed with first | ⟨encoding, -, failed⟩
      · obtain ⟨cause, encoded, rfl⟩ := error_of_mapError first
        exact .tokenizing position rfl encoded
      · rcases error_of_bind failed with others | ⟨encodings, -, absurd⟩
        · exact ih others
        · cases absurd

theorem length_encodingsOf {position : Nat}
    (encoded : encodingsOf tokenizer position documents = .ok encodings) :
    encodings.length = documents.length := by
  simpa using (congrArg List.length (encodingsOf_ok encoded)).symm

theorem encoded_of_mem {position : Nat}
    (encoded : encodingsOf tokenizer position documents = .ok encodings)
    (member : encoding ∈ encodings) : ∃ document, tokenizer.encode document = .ok encoding := by
  have listed : some encoding ∈ documents.map fun document =>
      (tokenizer.encode document).toOption := by
    rw [encodingsOf_ok encoded]
    exact List.mem_map_of_mem member
  obtain ⟨document, -, found⟩ := List.mem_map.mp listed
  refine ⟨document, ?_⟩
  cases ended : tokenizer.encode document with
  | error cause => simp [ended, Except.toOption] at found
  | ok other => simpa [ended, Except.toOption] using found

theorem checkEncodings_error {position : Nat}
    (failed : TokenBuffers.checkEncodings position encodings = .error error) :
    ∃ (position : Nat) (encoding : Encoding) (fault : InputFault),
      encoding ∈ encodings ∧ encoding.check = .error fault ∧
      error = .context s!"encoding {position}" (.invalidInput fault) := by
  induction encodings generalizing position with
  | nil => cases failed
  | cons encoding rest ih =>
      rw [TokenBuffers.checkEncodings] at failed
      cases checked : encoding.check with
      | error fault =>
          rw [checked] at failed
          cases failed
          exact ⟨position, encoding, fault, List.mem_cons_self, checked, rfl⟩
      | ok _ =>
          rw [checked] at failed
          obtain ⟨place, other, fault, member, refused, same⟩ := ih failed
          exact ⟨place, other, fault, List.mem_cons_of_mem _ member, refused, same⟩

/-- Only the encodings themselves can be wrong when rows are filled with them. -/
theorem writeEncodings_foreseen {useTypes : Bool}
    (encoded : encodingsOf tokenizer 0 documents = .ok encodings)
    (counted : elementCount [documents.length, length] = .ok tokens)
    (failed : (writeEncodings documents.length length encodings (.blank useTypes tokens)).1 =
      .error error) : Foreseen (some tokenizer) error := by
  have rows := length_encodingsOf encoded
  rw [writeEncodings, if_pos rows] at failed
  have passed : TokenBuffers.encodingsCheck length encodings (.blank useTypes tokens) =
      TokenBuffers.checkEncodings 0 encodings := by
    rw [← rows] at counted
    simp only [TokenBuffers.encodingsCheck, counted, Except.mapError, TokenBuffers.check_blank,
      bind, Except.bind]
  cases checked : TokenBuffers.checkEncodings 0 encodings with
  | ok _ =>
      rw [TokenBuffers.fillEncodings_blank (passed.trans checked)] at failed
      cases failed
  | error other =>
      unfold TokenBuffers.encodingsCheck at passed
      rw [TokenBuffers.fillEncodings, passed, checked] at failed
      cases failed
      obtain ⟨position, encoding, fault, member, refused, rfl⟩ := checkEncodings_error checked
      obtain ⟨document, found⟩ := encoded_of_mem encoded member
      exact .encoding position rfl found refused

end Encodings

/-- Documents get good results as the rows of one batch, where a batch session that fits holds
them. -/
theorem embedRows_delivers {ρ : Type} {good : List ρ → Prop} {reduce : Reduction ρ}
    (model : BoundModel) (host : Host) (runtime : Runtime) (nonempty : documents ≠ [])
    {runContext : String} (known : runContext ∈ runTexts)
    (shaped : ∀ batch error, model.outputShape batch = .error error →
      Foreseen (some tokenizer) error)
    (reduces : ∀ bundle, model.Fits documents.length bundle → ∃ results,
      reduce bundle.output.cells bundle.mask.cells documents.length = .ok results ∧
        good results) :
    Delivers model tokenizer
      (embedRows (model.source host runtime) tokenizer reduce runContext documents) good := by
  refine (Delivers.ofApart (encodeAll_apart tokenizer 0 documents)
    fun error => encodingsOf_foreseen).bind fun encodings encoded => ?_
  have writes := fillEncodings_writes documents.length model.binding.sequenceLength encodings
  refine (runBatch_delivers writes runtime (Nat.ne_of_gt (List.length_pos_of_ne_nil nonempty))
    shaped (fun tokens outputs error opened failed => writeEncodings_foreseen encoded
      (BoundModel.elementCount_of_sizes opened) failed) known).bind fun bundle fits => ?_
  obtain ⟨results, reduced, held⟩ := reduces bundle fits
  rw [reduced]
  exact .ofPure held

/-- Documents get good results where the work on them does. -/
theorem EmbedderKind.Serving.delivers {C E ρ : Type} {kind : EmbedderKind C E ρ}
    {embedder fresh : E} {engine : Engine} {good : ρ → Prop}
    (serving : kind.Serving fresh tokenizer compute embedder engine) (nonempty : documents ≠ [])
    (environment : Environment)
    (work : ∀ runtime, Delivers (kind.boundModel embedder compute) tokenizer
      (kind.work embedder (kind.source embedder host runtime) tokenizer documents)
      fun results => results.length = documents.length ∧ ∀ result ∈ results, good result) :
    Delivered (some tokenizer) documents good
      (kind.embedDocuments embedder host environment documents engine).1.1 := by
  rw [embedDocuments_some kind embedder host environment (by simpa using nonempty),
    embedBatch_open serving.given]
  have found : Delivers (kind.boundModel embedder compute) tokenizer
      (EmbedAction.ofExcept (runtimeOf environment))
      fun runtime => runtimeOf environment = .ok runtime :=
    .ofExcept fun error => runtimeOf_foreseen
  have batch := found.bind fun runtime _ => work runtime
  exact delivered_of_ends _ (batch _ serving.ready_own)

namespace DenseEmbedder

variable {embedder : DenseEmbedder} {runtime : Runtime} {before after : Engine}
variable {bundle : BatchSession}

/-- A batch session has exactly the cells that the sizes ask for, however large they are. -/
theorem exact_of_fits (fits : (embedder.boundModel compute).Fits batch bundle) :
    bundle.Exact (batch * embedder.binding.sequenceLength)
      (batch * embedder.binding.sequenceLength * embedder.embeddingDimension) := by
  have exact := fits.exact (elementCount_outputs fits.sized)
  simpa [boundModel, Nat.mul_assoc] using exact

theorem outputShape_foreseen {given : Option Tokenizer}
    (failed : embedder.outputShape batch = .error error) : Foreseen given error := by
  obtain ⟨fault, sized, rfl⟩ := error_of_mapError failed
  exact foreseen_dimensions sized

theorem work_delivers (someTokens : 0 < embedder.binding.sequenceLength)
    (some : 0 < embedder.embeddingDimension) (nonempty : documents ≠ []) (host : Host)
    (runtime : Runtime) :
    Delivers (embedder.boundModel compute) tokenizer
      (embedder.work (kind.source embedder host runtime) tokenizer documents)
      fun rows => rows.length = documents.length ∧
        ∀ row ∈ rows, row.length = embedder.outputDimension := by
  have someRows := List.length_pos_of_ne_nil nonempty
  refine embedRows_delivers (embedder.boundModel compute) host runtime nonempty
    (by simp [runTexts]) (fun batch error => outputShape_foreseen) fun bundle fits => ?_
  have masked := BoundModel.elementCount_of_sizes fits.sized
  rw [← fits.formed.sized.mask] at masked
  exact Pooling.pool_filled someRows someTokens some masked (elementCount_outputs fits.sized)
    embedder.pooling embedder.l2Normalize

end DenseEmbedder

namespace SparseEmbedder

variable {embedder : SparseEmbedder} {runtime : Runtime} {before after : Engine}
variable {bundle : BatchSession} {vector : SparseVector} {windows : List Window}

/-- Settings as a valid configuration leaves them. -/
structure Usable (embedder : SparseEmbedder) : Prop where
  threshold : embedder.params.threshold ≥ Binary32.zero
  someTokens : 0 < embedder.binding.sequenceLength
  someEntries : 0 < embedder.vocabularySize
  word : embedder.vocabularySize < wordLimit
  strided : embedder.stride ≤ embedder.binding.sequenceLength

/-- A batch session has exactly the cells that the sizes ask for, however large they are. -/
theorem exact_of_fits (word : embedder.vocabularySize < wordLimit)
    (fits : (embedder.boundModel compute).Fits batch bundle) :
    bundle.Exact (batch * embedder.binding.sequenceLength)
      (Sparse.outputSizes embedder.params.layout batch embedder.binding.sequenceLength
        embedder.vocabularySize).prod :=
  fits.exact (elementCount_outputs word fits.sized)

/-- After a run, every row becomes a valid vector. -/
theorem sparsify_fits (usable : embedder.Usable) (positive : 0 < batch)
    (fits : (embedder.boundModel compute).Fits batch bundle) (params : SparsifyParams)
    (layout : params.layout = embedder.params.layout)
    (threshold : params.threshold ≥ Binary32.zero) :
    ∃ vectors, Sparse.sparsify params bundle.output.cells bundle.mask.cells batch
        embedder.binding.sequenceLength embedder.vocabularySize = .ok vectors ∧
      vectors.length = batch ∧ ∀ vector ∈ vectors, vector.validate = .ok () := by
  have masked := BoundModel.elementCount_of_sizes fits.sized
  rw [← fits.formed.sized.mask] at masked
  have filled := elementCount_outputs usable.word fits.sized
  rw [← layout] at filled
  exact Sparse.sparsify_filled threshold positive usable.someTokens usable.someEntries masked filled

theorem embedFixed_delivers (usable : embedder.Usable) (nonempty : documents ≠ [])
    (host : Host) (runtime : Runtime) :
    Delivers (embedder.boundModel compute) tokenizer
      (embedder.embedFixed (embedder.source host runtime) tokenizer documents)
      fun vectors => vectors.length = documents.length ∧
        ∀ vector ∈ vectors, vector.validate = .ok () := by
  have someRows := List.length_pos_of_ne_nil nonempty
  exact embedRows_delivers (embedder.boundModel compute) host runtime nonempty
    (by simp [runTexts]) nofun fun bundle fits =>
      sparsify_fits usable someRows fits embedder.params rfl usable.threshold

/-- Windows that were cut fit every row, so that only the document itself can be wrong. -/
theorem windowsFor_foreseen {position : Nat} {document : String} (usable : embedder.Usable)
    (sliding : 0 < embedder.stride)
    (failed : (embedder.windowsFor tokenizer document).mapError
      (EmbeddingError.context s!"failed to tokenize sliding windows for document {position}") =
        .error error) : Foreseen (some tokenizer) error := by
  obtain ⟨cause, refused, rfl⟩ := error_of_mapError failed
  unfold windowsFor at refused
  rcases error_of_bind refused with first | ⟨encoding, encoded, last⟩
  · obtain ⟨cause, encoding, rfl⟩ := error_of_mapError first
    exact .sliding position rfl encoding
  · obtain ⟨fault, cut, rfl⟩ := error_of_mapError last
    have strided := usable.strided
    have refused := Window.check_of_split (Nat.ne_of_gt usable.someTokens) (by omega) cut
    exact .slidingEncoding position rfl (ok_of_mapError encoded) refused

theorem windowsFor_fits {document : String}
    (cut : embedder.windowsFor tokenizer document = .ok windows) :
    windows ≠ [] ∧ ∀ window ∈ windows,
      window.Fits embedder.binding.sequenceLength embedder.binding.usesTokenTypes := by
  obtain ⟨encoding, -, cut⟩ := ok_of_bind cut
  exact Window.split_fits (ok_of_mapError cut)

theorem writeWindows_filled {length tokens : Nat} {useTypes : Bool} (some : windows ≠ [])
    (fits : ∀ window ∈ windows, window.Fits length useTypes)
    (counted : elementCount [windows.length, length] = .ok tokens) :
    (writeWindows windows.length length windows (.blank useTypes tokens)).1 = .ok () := by
  have passed := TokenBuffers.windowsCheck_blank useTypes some counted
  rw [writeWindows, if_pos rfl, TokenBuffers.fillWindows_blank passed fits]
  rfl

theorem embedWindows_delivers (usable : embedder.Usable) (sliding : 0 < embedder.stride)
    (host : Host) (runtime : Runtime) (position : Nat) (document : String) :
    Delivers (embedder.boundModel compute) tokenizer
      (embedder.embedWindows (embedder.source host runtime) tokenizer position document)
      fun vector => vector.validate = .ok () := by
  refine .bindStep (windowsOf_apart embedder tokenizer document) ?_
  refine (Delivers.ofExcept fun error => windowsFor_foreseen usable sliding).bind
    fun windows cut => ?_
  obtain ⟨some, fit⟩ := windowsFor_fits (ok_of_mapError cut)
  have someRows := List.length_pos_of_ne_nil some
  refine .bindStep (.ofNote _ _) ?_
  have writes := fillWindows_writes windows.length
    (embedder.boundModel compute).binding.sequenceLength windows
  refine (runBatch_delivers writes runtime (Nat.ne_of_gt someRows) nofun ?_
    (by simp [runTexts])).bind fun bundle fits => ?_
  · intro tokens outputs error opened failed
    have filled := writeWindows_filled some fit (BoundModel.elementCount_of_sizes opened)
    cases failed.symm.trans filled
  obtain ⟨vectors, reduced, -, valid⟩ := sparsify_fits usable someRows fits
    { embedder.params with threshold := Binary32.zero, topK := 0 } rfl Binary32.zero_le_zero
  obtain ⟨merged, joined, validToo⟩ :=
    Sparse.mergeWindows_valid usable.threshold valid embedder.params.topK
  dsimp only
  rw [reduced]
  refine (Delivers.ofExcept fun _ failed => by cases failed).bind fun perWindow found => ?_
  cases found
  rw [joined]
  exact .ofPure validToo

theorem embedSliding_delivers (usable : embedder.Usable) (sliding : 0 < embedder.stride)
    (host : Host) (runtime : Runtime) (position : Nat) (documents : List String) :
    Delivers (embedder.boundModel compute) tokenizer
      (embedder.embedSliding (embedder.source host runtime) tokenizer position documents)
      fun vectors => vectors.length = documents.length ∧
        ∀ vector ∈ vectors, vector.validate = .ok () := by
  induction documents generalizing position with
  | nil => exact .ofPure ⟨rfl, by simp⟩
  | cons document rest ih =>
      refine (embedWindows_delivers usable sliding host runtime position document).bind
        fun vector valid => (ih (position + 1)).bind fun vectors reached => .ofPure ⟨?_, ?_⟩
      · rw [List.length_cons, List.length_cons, reached.1]
      · intro other member
        rcases List.mem_cons.mp member with rfl | later
        · exact valid
        · exact reached.2 other later

theorem labelFor_foreseen {index : Nat} (failed : labelFor tokenizer index = .error error) :
    Foreseen (some tokenizer) error := by
  unfold labelFor at failed
  split at failed
  · rename_i large
    cases failed
    exact .index large
  · obtain ⟨cause, decoded, rfl⟩ := error_of_mapError failed
    exact .label rfl decoded

theorem attachLabels_delivers {model : BoundModel} (valid : vector.validate = .ok ()) :
    Delivers model tokenizer (attachLabels tokenizer vector)
      fun labelled => labelled.validate = .ok () := by
  unfold attachLabels
  split
  · exact .ofPure valid
  · have label (index : Nat) (_ : True) :
        Delivers model tokenizer (labelOf tokenizer index) fun _ => True :=
      (Delivers.ofReaches (labelOf_reaches tokenizer index .unknown)
        fun error => labelFor_foreseen).weaken fun _ _ => trivial
    exact (Delivers.mapM label fun _ _ => trivial).bind fun labels each =>
      .ofPure (SparseVector.validate_labelled valid each.1)

theorem preprocessed_foreseen {preProcessor : Option PreProcessor} {position : Nat}
    (failed : preprocessed preProcessor position documents = .error error) :
    Foreseen (some tokenizer) error := by
  induction documents generalizing position with
  | nil => cases failed
  | cons document rest ih =>
      cases preProcessor with
      | none => cases failed
      | some processor =>
          rcases error_of_bind failed with first | ⟨changed, -, failed⟩
          · obtain ⟨payload, -, rfl⟩ := error_of_mapError first
            exact .preProcessor position payload.message
          · rcases error_of_bind failed with others | ⟨last, -, absurd⟩
            · exact ih others
            · cases absurd

theorem work_delivers (usable : embedder.Usable) (nonempty : documents ≠ []) (host : Host)
    (runtime : Runtime) :
    Delivers (embedder.boundModel compute) tokenizer
      (embedder.work (embedder.source host runtime) tokenizer documents)
      fun vectors => vectors.length = documents.length ∧
        ∀ vector ∈ vectors, vector.validate = .ok () := by
  have labelling (vectors : List SparseVector)
      (reached : vectors.length = documents.length ∧
        ∀ vector ∈ vectors, vector.validate = .ok ()) :
      Delivers (embedder.boundModel compute) tokenizer
        (if embedder.returnLabels then vectors.mapM (attachLabels tokenizer) else return vectors)
        fun vectors => vectors.length = documents.length ∧
          ∀ vector ∈ vectors, vector.validate = .ok () := by
    split
    · exact (Delivers.mapM (fun _ => attachLabels_delivers) reached.2).weaken
        fun labelled each => ⟨each.1.trans reached.1, each.2⟩
    · exact .ofPure reached
  unfold work
  refine (Delivers.ofApart (preprocess_apart embedder.preProcessor 0 documents)
    fun error => preprocessed_foreseen).bind fun changed processed => ?_
  have count : changed.length = documents.length := by
    simpa using (congrArg List.length (preprocessed_ok processed)).symm
  have nonempty : changed ≠ [] := by
    rw [← List.length_pos_iff, count]
    exact List.length_pos_of_ne_nil nonempty
  rw [← count] at labelling ⊢
  dsimp only
  by_cases sliding : embedder.stride > 0
  · rw [if_pos sliding]
    exact (embedSliding_delivers usable sliding host runtime 0 changed).bind labelling
  · rw [if_neg sliding]
    exact (embedFixed_delivers usable nonempty host runtime).bind labelling

end SparseEmbedder

end TextVectors

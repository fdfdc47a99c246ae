import TextVectors.Proofs.Embedding.ModelFile
import TextVectors.Proofs.Embedding.RowWise
import TextVectors.Proofs.Embedding.Sizes
import TextVectors.Proofs.Embedding.Transparency

namespace TextVectors

/-! Documents that are embedded together come out as if each was embedded alone.

For every document of a batch there is a value that the document alone determines.  Whatever a
successful batch ends with is the list of these values.
-/

open Inference

section Lists

variable {ε α β γ : Type} {xs : List α} {ys : List β} {zs : List γ}

theorem toOption_mapM {operation : α → Except ε β} (succeeded : xs.mapM operation = .ok ys) :
    xs.map (fun value => (operation value).toOption) = ys.map some := by
  induction xs generalizing ys with
  | nil =>
      cases succeeded
      rfl
  | cons value rest ih =>
      rw [List.mapM_cons] at succeeded
      obtain ⟨first, found, succeeded⟩ := ok_of_bind succeeded
      obtain ⟨others, foundOthers, succeeded⟩ := ok_of_bind succeeded
      cases succeeded
      rw [List.map_cons, List.map_cons, found, ih foundOthers]
      rfl

theorem ok_reworded {ε' ε'' : Type} {wording : ε → ε'} {other : ε → ε''} {result : Except ε α}
    {value : α} (succeeded : result.mapError wording = .ok value) :
    result.mapError other = .ok value := by
  rw [ok_of_mapError succeeded]
  rfl

/-- Values found one after the other, in two steps. -/
theorem map_bind_some {first : α → Option β} {second : β → Option γ}
    (found : xs.map first = ys.map some) (foundThen : ys.map second = zs.map some) :
    xs.map (fun value => (first value).bind second) = zs.map some := by
  have stepped := congrArg (List.map fun between => between.bind second) found
  rw [List.map_map, List.map_map] at stepped
  exact stepped.trans foundThen

end Lists

section Encoding

variable {tokenizer : Tokenizer} {documents : List String} {encodings : List Encoding}

theorem encodingsOf_ok {position : Nat}
    (succeeded : encodingsOf tokenizer position documents = .ok encodings) :
    documents.map (fun document => (tokenizer.encode document).toOption) =
      encodings.map some := by
  induction documents generalizing position encodings with
  | nil =>
      cases succeeded
      rfl
  | cons document rest ih =>
      obtain ⟨encoding, found, succeeded⟩ := ok_of_bind succeeded
      obtain ⟨others, foundOthers, succeeded⟩ := ok_of_bind succeeded
      cases succeeded
      rw [List.map_cons, List.map_cons, ok_of_mapError found, ih foundOthers]
      rfl

end Encoding

/-- What is made of the results that documents determine is determined as well. -/
theorem determined_of_each {α β : Type} {documents : List String} {find : String → Option α}
    {found : List α} (each : documents.map find = found.map some) (change : α → β) :
    documents.map (fun document => (find document).map change) = (found.map change).map some := by
  have mapped := congrArg (List.map (Option.map change)) each
  rw [List.map_map, List.map_map] at mapped
  rw [List.map_map]
  exact mapped

section Rows

variable {model : BoundModel} {width : Nat} {rows : List Window} {output : List Float32}

/-- An output that is computed for rows that fit. -/
structure BoundModel.Computes (model : BoundModel) (rows : List Window) (output : List Float32) :
    Prop where
  fits : ∀ row ∈ rows, row.Fits model.binding.sequenceLength model.binding.usesTokenTypes
  computed : output = (List.range output.length).map
    (model.compute (model.named (.ofRows model.binding.usesTokenTypes rows)))

namespace BoundModel.Computes

/-- Where the model is row-wise, the output is made of the outputs of the rows. -/
theorem chunks (computes : model.Computes rows output)
    (rowWise : RowWise model.binding.sequenceLength width model.compute)
    (sized : output.length = rows.length * width) :
    Pooling.chunks width rows.length output = rows.map (rowOutput model width) := by
  obtain ⟨fits, computed⟩ := computes
  rw [sized] at computed
  rw [computed]
  exact RowWise.chunks_output model rowWise fits

theorem masks (computes : model.Computes rows output) :
    Pooling.chunks model.binding.sequenceLength rows.length (rows.flatMap (·.mask)) =
      rows.map (·.mask) :=
  chunks_flatMap fun row member => (computes.fits row member).mask

end BoundModel.Computes

/-- Where the results of a batch are made of its rows, each document determines its own. -/
theorem BoundModel.determined_of_rowsAnswer {ρ : Type} {tokenizer : Tokenizer}
    {documents : List String} {handed after : List NamedBuffers} {results : List ρ}
    {reduce : Reduction ρ} {ofRow : Window → ρ}
    (succeeded : model.rowsAnswer tokenizer reduce documents handed = .ok results after)
    (reduces : ∀ rows output, model.Computes rows output →
      reduce output (rows.flatMap (·.mask)) rows.length = .ok results →
        results = rows.map ofRow) :
    documents.map (fun document => ((tokenizer.encode document).toOption.map (Window.ofEncoding
      model.binding.sequenceLength model.binding.usesTokenTypes)).map ofRow) =
        results.map some := by
  obtain ⟨encodings, _, encoded, succeeded⟩ := Transcript.ok_of_bind succeeded
  obtain ⟨encoded, -⟩ := Transcript.ok_of_ofExcept encoded
  obtain ⟨⟨output, mask⟩, _, ran, succeeded⟩ := Transcript.ok_of_bind succeeded
  obtain ⟨reduced, -⟩ := Transcript.ok_of_ofExcept succeeded
  have reduced := ok_of_mapError reduced
  obtain ⟨count, checked⟩ := checked_of_ran ran
  rw [← count, ran_encodings id checked] at ran
  obtain ⟨⟨tokens, outputs⟩, _, -, ran⟩ := Transcript.ok_of_bind ran
  cases ran
  let rowOf := Window.ofEncoding model.binding.sequenceLength model.binding.usesTokenTypes
  have fits : ∀ row ∈ encodings.map rowOf,
      row.Fits model.binding.sequenceLength model.binding.usesTokenTypes := by
    intro row member
    obtain ⟨encoding, -, rfl⟩ := List.mem_map.mp member
    exact Window.ofEncoding_fits _ _ encoding
  have each : documents.map (fun document => (tokenizer.encode document).toOption.map rowOf) =
      (encodings.map rowOf).map some :=
    determined_of_each (encodingsOf_ok encoded) rowOf
  rw [← count, ← List.length_map rowOf] at reduced
  rw [reduces _ _ ⟨fits, by rw [List.length_map, List.length_range]⟩ reduced]
  exact determined_of_each each ofRow

end Rows

namespace DenseEmbedder

variable {embedder : DenseEmbedder} {tokenizer : Tokenizer} {documents : List String}
variable {compute : NamedBuffers → Nat → Float32} {environment : Environment}

def rowWidth (embedder : DenseEmbedder) : Nat :=
  embedder.binding.sequenceLength * embedder.embeddingDimension

/-- The result of one row. -/
def pooledRow (embedder : DenseEmbedder) (compute : NamedBuffers → Nat → Float32)
    (row : Window) : List Float32 :=
  let pooled := embedder.pooling.poolRow embedder.binding.sequenceLength
    embedder.embeddingDimension (rowOutput (embedder.boundModel compute) embedder.rowWidth row)
    row.mask
  if embedder.l2Normalize then Pooling.normalize pooled else pooled

/-- The result that a document determines. -/
def documentRow (embedder : DenseEmbedder) (tokenizer : Tokenizer)
    (compute : NamedBuffers → Nat → Float32) (document : String) : Option (List Float32) :=
  ((tokenizer.encode document).toOption.map (Window.ofEncoding embedder.binding.sequenceLength
    embedder.binding.usesTokenTypes)).map (embedder.pooledRow compute)

theorem pool_check {states mask batch length hidden : Nat}
    (passed : Pooling.check states mask batch length hidden = .ok ()) :
    states = batch * (length * hidden) := by
  obtain ⟨-, -, -, -, counted⟩ := Pooling.check_iff.mp passed
  simpa using TokenBuffers.elementCount_prod counted

theorem pool_rows {rows : List Window} {results : List (List Float32)} {output : List Float32}
    (rowWise : RowWise embedder.binding.sequenceLength embedder.rowWidth compute)
    (computes : (embedder.boundModel compute).Computes rows output)
    (succeeded : embedder.poolRows output (rows.flatMap (·.mask)) rows.length = .ok results) :
    results = rows.map (embedder.pooledRow compute) := by
  obtain ⟨_, passed, succeeded⟩ := ok_of_bind succeeded
  have split : Pooling.chunks (embedder.binding.sequenceLength * embedder.embeddingDimension)
      rows.length output = rows.map (rowOutput (embedder.boundModel compute) embedder.rowWidth) :=
    computes.chunks rowWise (pool_check passed)
  have masks : Pooling.chunks embedder.binding.sequenceLength rows.length
      (rows.flatMap (·.mask)) = rows.map (·.mask) := computes.masks
  cases succeeded
  rw [split, masks, List.zipWith_map, List.zipWith_self]
  unfold pooledRow
  cases embedder.l2Normalize with
  | false => rfl
  | true =>
      rw [if_pos rfl, List.map_map]
      rfl

theorem shown_ok {results : List (List Float32)} {handed after : List NamedBuffers}
    (rowWise : RowWise embedder.binding.sequenceLength embedder.rowWidth compute)
    (succeeded : embedder.shown tokenizer compute documents handed = .ok results after) :
    documents.map (embedder.documentRow tokenizer compute) = results.map some :=
  BoundModel.determined_of_rowsAnswer succeeded fun _ _ => pool_rows rowWise

end DenseEmbedder

namespace SparseEmbedder

variable {embedder : SparseEmbedder} {tokenizer : Tokenizer} {documents : List String}
variable {compute : NamedBuffers → Nat → Float32} {environment : Environment}

def rowWidth (embedder : SparseEmbedder) : Nat :=
  match embedder.params.layout with
  | .tokenLogits => embedder.binding.sequenceLength * embedder.vocabularySize
  | .documentLogits => embedder.vocabularySize

/-- The vector of one row. -/
def sparseRow (embedder : SparseEmbedder) (compute : NamedBuffers → Nat → Float32)
    (row : Window) : SparseVector :=
  let output := rowOutput (embedder.boundModel compute) embedder.rowWidth row
  match embedder.params.layout with
  | .tokenLogits => Sparse.tokenRow embedder.params embedder.binding.sequenceLength
      embedder.vocabularySize output row.mask
  | .documentLogits => Sparse.documentRow embedder.params output

theorem sparsify_check {output mask batch : Nat}
    (passed : Sparse.check embedder.params output mask batch embedder.binding.sequenceLength
      embedder.vocabularySize = .ok ()) :
    output = batch * embedder.rowWidth := by
  obtain ⟨-, -, -, -, -, filled⟩ := Sparse.check_iff.mp passed
  rw [TokenBuffers.elementCount_prod filled, rowWidth]
  cases embedder.params.layout <;> simp [Sparse.outputSizes]

theorem sparsify_rows {rows : List Window} {vectors : List SparseVector} {output : List Float32}
    (rowWise : RowWise embedder.binding.sequenceLength embedder.rowWidth compute)
    (computes : (embedder.boundModel compute).Computes rows output)
    (succeeded : embedder.sparsifyRows output (rows.flatMap (·.mask)) rows.length =
      .ok vectors) :
    vectors = rows.map (embedder.sparseRow compute) := by
  obtain ⟨_, passed, succeeded⟩ := ok_of_bind succeeded
  have split : Pooling.chunks embedder.rowWidth rows.length output =
      rows.map (rowOutput (embedder.boundModel compute) embedder.rowWidth) :=
    computes.chunks rowWise (sparsify_check passed)
  have masks : Pooling.chunks embedder.binding.sequenceLength rows.length
      (rows.flatMap (·.mask)) = rows.map (·.mask) := computes.masks
  unfold sparseRow
  unfold rowWidth at split ⊢
  cases layout : embedder.params.layout with
  | tokenLogits =>
      simp only [layout] at succeeded split ⊢
      cases succeeded
      rw [split, masks, List.zipWith_map, List.zipWith_self]
  | documentLogits =>
      simp only [layout] at succeeded split ⊢
      cases succeeded
      rw [split, List.map_map]
      rfl

/-- A document as the pre-processor leaves it. -/
def changedBy (preProcessor : Option PreProcessor) (document : String) : Option String :=
  match preProcessor with
  | none => some document
  | some processor => (processor.apply document).toOption

theorem preprocessed_ok {preProcessor : Option PreProcessor} {position : Nat}
    {changed : List String}
    (succeeded : preprocessed preProcessor position documents = .ok changed) :
    documents.map (changedBy preProcessor) = changed.map some := by
  induction documents generalizing position changed with
  | nil =>
      cases preProcessor <;> cases succeeded <;> rfl
  | cons document rest ih =>
      cases preProcessor with
      | none =>
          cases succeeded
          rfl
      | some processor =>
          obtain ⟨first, found, succeeded⟩ := ok_of_bind succeeded
          obtain ⟨others, foundOthers, succeeded⟩ := ok_of_bind succeeded
          cases succeeded
          rw [List.map_cons, List.map_cons, ih foundOthers, changedBy, ok_of_mapError found]
          rfl

theorem preprocessed_of_map {preProcessor : Option PreProcessor} {changed : List String}
    (each : documents.map (changedBy preProcessor) = changed.map some) (position : Nat) :
    preprocessed preProcessor position documents = .ok changed := by
  induction documents generalizing position changed with
  | nil =>
      cases changed with
      | nil => rfl
      | cons text others => cases each
  | cons document rest ih =>
      cases changed with
      | nil => cases each
      | cons text others =>
          injection each with here later
          cases preProcessor with
          | none =>
              cases here
              have same : rest = others :=
                List.map_injective_iff.mpr (Option.some_injective _) later
              rw [same]
              rfl
          | some processor =>
              have applied : processor.apply document = .ok text := ok_of_toOption here
              rw [preprocessed, applied, ih later (position + 1)]
              rfl

/-- The vector that the one row of a document determines. -/
def rowVector (embedder : SparseEmbedder) (tokenizer : Tokenizer)
    (compute : NamedBuffers → Nat → Float32) (document : String) : Option SparseVector :=
  ((tokenizer.encode document).toOption.map (Window.ofEncoding embedder.binding.sequenceLength
    embedder.binding.usesTokenTypes)).map (embedder.sparseRow compute)

theorem fixedAnswer_ok {vectors : List SparseVector} {handed after : List NamedBuffers}
    (rowWise : RowWise embedder.binding.sequenceLength embedder.rowWidth compute)
    (succeeded : embedder.fixedAnswer tokenizer compute documents handed = .ok vectors after) :
    documents.map (embedder.rowVector tokenizer compute) = vectors.map some :=
  BoundModel.determined_of_rowsAnswer succeeded fun _ _ => sparsify_rows rowWise

/-- Neither the position of a document nor what was handed over before shows in its vector. -/
theorem windowsAnswer_ok {position : Nat} {document : String} {vector : SparseVector}
    {handed after : List NamedBuffers}
    (succeeded : embedder.windowsAnswer tokenizer compute position document handed =
      .ok vector after) :
    (embedder.windowsAnswer tokenizer compute 0 document).result.toOption = some vector := by
  obtain ⟨windows, _, cut, succeeded⟩ := Transcript.ok_of_bind succeeded
  obtain ⟨cut, -⟩ := Transcript.ok_of_ofExcept cut
  obtain ⟨⟨output, mask⟩, _, ran, succeeded⟩ := Transcript.ok_of_bind succeeded
  obtain ⟨perWindow, _, selected, succeeded⟩ := Transcript.ok_of_bind succeeded
  obtain ⟨selected, -⟩ := Transcript.ok_of_ofExcept selected
  obtain ⟨merged, -⟩ := Transcript.ok_of_ofExcept succeeded
  obtain ⟨later, ranAgain⟩ := BoundModel.ran_reworded ran
    (EmbeddingError.context s!"failed to prepare sliding window tensors for document {0}") []
  have ended : embedder.windowsAnswer tokenizer compute 0 document [] = .ok vector later := by
    rw [windowsAnswer, Transcript.bind_ok (Transcript.ofExcept_ok (ok_reworded cut)),
      Transcript.bind_ok ranAgain]
    dsimp only
    rw [Transcript.bind_ok (Transcript.ofExcept_ok selected)]
    exact Transcript.ofExcept_ok (ok_reworded merged)
  rw [Transcript.result, ended]
  rfl

theorem slidingAnswer_ok {vectors : List SparseVector} {position : Nat}
    {handed after : List NamedBuffers}
    (succeeded : embedder.slidingAnswer tokenizer compute position documents handed =
      .ok vectors after) :
    documents.map (fun document =>
      (embedder.windowsAnswer tokenizer compute 0 document).result.toOption) =
        vectors.map some := by
  induction documents generalizing position vectors handed with
  | nil =>
      cases succeeded
      rfl
  | cons document rest ih =>
      obtain ⟨first, _, found, succeeded⟩ := Transcript.ok_of_bind succeeded
      obtain ⟨others, _, foundOthers, succeeded⟩ := Transcript.ok_of_bind succeeded
      cases succeeded
      rw [List.map_cons, List.map_cons, windowsAnswer_ok found, ih foundOthers]

/-- The vector of a document before its labels. -/
def plainVector (embedder : SparseEmbedder) (tokenizer : Tokenizer)
    (compute : NamedBuffers → Nat → Float32) (document : String) : Option SparseVector :=
  if embedder.stride > 0 then
    (embedder.windowsAnswer tokenizer compute 0 document).result.toOption
  else embedder.rowVector tokenizer compute document

def labelledBy (embedder : SparseEmbedder) (tokenizer : Tokenizer) (vector : SparseVector) :
    Option SparseVector :=
  if embedder.returnLabels then (labelled tokenizer vector).toOption else some vector

/-- The vector that a document determines. -/
def documentVector (embedder : SparseEmbedder) (tokenizer : Tokenizer)
    (compute : NamedBuffers → Nat → Float32) (document : String) : Option SparseVector :=
  (changedBy embedder.preProcessor document).bind fun changed =>
    (embedder.plainVector tokenizer compute changed).bind (embedder.labelledBy tokenizer)

theorem shown_ok {results : List SparseVector} {handed after : List NamedBuffers}
    (rowWise : RowWise embedder.binding.sequenceLength embedder.rowWidth compute)
    (succeeded : embedder.shown tokenizer compute documents handed = .ok results after) :
    documents.map (embedder.documentVector tokenizer compute) = results.map some := by
  obtain ⟨changed, _, prepared, succeeded⟩ := Transcript.ok_of_bind succeeded
  obtain ⟨prepared, -⟩ := Transcript.ok_of_ofExcept prepared
  obtain ⟨vectors, _, embedded, succeeded⟩ := Transcript.ok_of_bind succeeded
  obtain ⟨finished, -⟩ := Transcript.ok_of_ofExcept succeeded
  have plain : changed.map (embedder.plainVector tokenizer compute) = vectors.map some := by
    unfold plainAnswer at embedded
    unfold plainVector
    split at embedded
    · rename_i sliding
      simp only [if_pos sliding]
      exact slidingAnswer_ok embedded
    · rename_i fixed
      simp only [if_neg fixed]
      exact fixedAnswer_ok rowWise embedded
  have labels : vectors.map (embedder.labelledBy tokenizer) = results.map some := by
    unfold labelledBy
    split at finished
    · rename_i wanted
      simp only [if_pos wanted]
      exact toOption_mapM finished
    · rename_i unwanted
      simp only [if_neg unwanted]
      cases finished
      rfl
  exact map_bind_some (preprocessed_ok prepared) (map_bind_some plain labels)

end SparseEmbedder

section Alone

variable {α : Type} {documents : List String} {results : List α} {determined : String → Option α}

theorem ok_of_single {embedded : Except EmbeddingError (List α)} {result : α}
    (succeeded : embedded.bind single = .ok result) : embedded = .ok [result] := by
  obtain ⟨found, rfl, only⟩ := ok_of_bind succeeded
  unfold single at only
  split at only
  · cases only
    rfl
  · cases only

/-- Results that documents determine are as many, and each is that of its document alone. -/
theorem determined_alone (together : documents.map determined = results.map some) :
    results.length = documents.length ∧
      ∀ (position : Nat) (document : String) (result : α), documents[position]? = some document →
        [document].map determined = [result].map some → results[position]? = some result := by
  constructor
  · simpa using (congrArg List.length together).symm
  · intro position document result found alone
    have own : determined document = some result := by simpa using alone
    have here : (documents.map determined)[position]? = (results.map some)[position]? := by
      rw [together]
    simpa [found, own, eq_comm] using here

end Alone

namespace EmbedderKind

variable {C E ρ : Type} {kind : EmbedderKind C E ρ} {embedder fresh : E} {config : C}
variable {modelPath : String} {tokenizer : Tokenizer} {opener host : Host}
variable {environment : Environment} {compute : NamedBuffers → Nat → Float32}
variable {engine before after : Engine} {documents : List String} {results : List ρ}
variable {shown : E → Tokenizer → (NamedBuffers → Nat → Float32) → List String →
  Transcript (List ρ)}
variable {rowWidth : E → Nat}
variable {ofDocument : E → Tokenizer → (NamedBuffers → Nat → Float32) → String → Option ρ}

/-- Every document determines its result where rows of the output are computed one by one, whose
width is none of what is remembered. -/
structure Determines (kind : EmbedderKind C E ρ)
    (shown : E → Tokenizer → (NamedBuffers → Nat → Float32) → List String → Transcript (List ρ))
    (rowWidth : E → Nat)
    (ofDocument : E → Tokenizer → (NamedBuffers → Nat → Float32) → String → Option ρ) :
    Prop where
  width : ∀ embedder memory, rowWidth (kind.remember embedder memory) = rowWidth embedder
  found : ∀ {embedder tokenizer compute documents results handed after},
    RowWise (kind.binding embedder).sequenceLength (rowWidth embedder) compute →
    shown embedder tokenizer compute documents handed = .ok results after →
      documents.map (ofDocument embedder tokenizer compute) = results.map some

theorem Determines.answered (determines : kind.Determines shown rowWidth ofDocument)
    (rowWise : RowWise (kind.binding embedder).sequenceLength (rowWidth embedder) compute)
    (succeeded : (answered environment documents
      (shown embedder tokenizer compute documents)).result = .ok results) :
    documents.map (ofDocument embedder tokenizer compute) = results.map some := by
  obtain ⟨newest, ended⟩ := Transcript.ok_of_result succeeded
  unfold EmbedderKind.answered at ended
  split at ended
  · rename_i none
    cases ended
    rw [List.isEmpty_iff.mp none]
    rfl
  · obtain ⟨runtime, _, -, ended⟩ := Transcript.ok_of_bind ended
    exact determines.found rowWise ended

/-- What succeeds with an embedder in use is what documents determine for a fresh one. -/
theorem InUse.determined (inUse : kind.InUse modelPath tokenizer config embedder engine)
    (opens : kind.withTokenizer opener modelPath tokenizer config before = .ok fresh after)
    (shows : kind.Shows shown) (alone : kind.ModelAlone)
    (determines : kind.Determines shown rowWidth ofDocument)
    (rowWise : RowWise (kind.binding fresh).sequenceLength (rowWidth fresh) compute)
    (obliging : engine.Obliging modelPath compute)
    (succeeded : (kind.embedDocuments embedder host environment documents engine).1.1 =
      .ok results) :
    documents.map (ofDocument fresh tokenizer compute) = results.map some := by
  have serving := inUse.serving opens shows compute
  obtain ⟨opening, -⟩ := withTokenizer_ok opens
  rw [← modelPath_of_opened opens] at obliging opening
  have present : opener.files.present (kind.binding embedder).modelPath = true := by
    rw [serving.binding_eq]
    exact opening.present
  rw [← embedDocuments_within alone present succeeded] at succeeded
  have shown := (serving.answers shows opening.present obliging environment documents).1
  exact determines.answered rowWise (shown.symm.trans succeeded)

/-- A query for a document of a batch gets its result, from whatever use of the embedder. -/
theorem InUse.queried_alike (inUse : kind.InUse modelPath tokenizer config embedder engine)
    (shows : kind.Shows shown) (alone : kind.ModelAlone)
    (determines : kind.Determines shown rowWidth ofDocument)
    (rowWise : RowWise (kind.binding embedder).sequenceLength (rowWidth embedder) compute)
    (obliging : engine.Obliging modelPath compute)
    (succeeded : (kind.embedDocuments embedder host environment documents engine).1.1 =
      .ok results) :
    results.length = documents.length ∧
      ∀ (asked : E) (later : Engine) (host : Host) (environment : Environment) (position : Nat)
          (document : String) (result : ρ),
        kind.InUse modelPath tokenizer config asked later →
        later.Obliging modelPath compute → documents[position]? = some document →
        (kind.embedQuery asked host environment document later).1.1 = .ok result →
          results[position]? = some result := by
  obtain ⟨opener, before, fresh, after, opens⟩ := inUse.opening
  obtain ⟨memory, same⟩ := (inUse.serving opens shows compute).same
  rw [same, kind.binding_remember, determines.width] at rowWise
  obtain ⟨count, each⟩ := determined_alone
    (inUse.determined opens shows alone determines rowWise obliging succeeded)
  refine ⟨count, ?_⟩
  intro asked later host environment position document result inUse obliging found succeeded
  exact each position document result found
    (inUse.determined opens shows alone determines rowWise obliging (ok_of_single succeeded))

end EmbedderKind

theorem DenseEmbedder.work_determines :
    kind.Determines shown rowWidth documentRow where
  width _ _ := rfl
  found := shown_ok

theorem SparseEmbedder.work_determines :
    kind.Determines shown rowWidth documentVector where
  width _ _ := rfl
  found := shown_ok

/-- Where rows are computed one by one, each document of a batch gets the result that a query for
it gets, from whatever use of the embedder, and there are as many results as documents. -/
theorem batching_transparent (modelPath : String) (tokenizer : Tokenizer)
    (compute : NamedBuffers → Nat → Float32) :
    (∀ (config : DenseConfig) (embedder : DenseEmbedder) (engine : Engine) (host : Host)
        (environment : Environment) (documents : List String) (results : List (List Float32)),
      DenseEmbedder.InUse modelPath tokenizer config embedder engine →
      RowWise embedder.binding.sequenceLength embedder.rowWidth compute →
      engine.Obliging modelPath compute →
      (embedder.embedDocuments host environment documents engine).1.1 = .ok results →
      results.length = documents.length ∧
        ∀ (asked : DenseEmbedder) (later : Engine) (host : Host) (environment : Environment)
            (position : Nat) (document : String) (result : List Float32),
          DenseEmbedder.InUse modelPath tokenizer config asked later →
          later.Obliging modelPath compute → documents[position]? = some document →
          (asked.embedQuery host environment document later).1.1 = .ok result →
            results[position]? = some result) ∧
    (∀ (config : SparseConfig) (embedder : SparseEmbedder) (engine : Engine) (host : Host)
        (environment : Environment) (documents : List String) (results : List SparseVector),
      SparseEmbedder.InUse modelPath tokenizer config embedder engine →
      RowWise embedder.binding.sequenceLength embedder.rowWidth compute →
      engine.Obliging modelPath compute →
      (embedder.embedDocuments host environment documents engine).1.1 = .ok results →
      results.length = documents.length ∧
        ∀ (asked : SparseEmbedder) (later : Engine) (host : Host) (environment : Environment)
            (position : Nat) (document : String) (result : SparseVector),
          SparseEmbedder.InUse modelPath tokenizer config asked later →
          later.Obliging modelPath compute → documents[position]? = some document →
          (asked.embedQuery host environment document later).1.1 = .ok result →
            results[position]? = some result) := by
  constructor
  · intro config embedder engine host environment documents results inUse rowWise obliging
      succeeded
    exact inUse.queried_alike DenseEmbedder.work_shows DenseEmbedder.work_modelAlone
      DenseEmbedder.work_determines rowWise obliging succeeded
  · intro config embedder engine host environment documents results inUse rowWise obliging
      succeeded
    exact inUse.queried_alike SparseEmbedder.work_shows SparseEmbedder.work_modelAlone
      SparseEmbedder.work_determines rowWise obliging succeeded

section Trial

def firstIds : NamedBuffers → List Int
  | (_, ⟨.int64, ids⟩) :: _ => ids
  | _ => []

theorem firstIds_row (length position : Nat) (buffers : NamedBuffers) :
    firstIds (buffers.row length position) =
      ((firstIds buffers).drop (position * length)).take length := by
  match buffers with
  | [] => simp [firstIds, NamedBuffers.row]
  | (_, ⟨element, _⟩) :: _ => cases element <;> simp [firstIds, NamedBuffers.row, Contents.row]

/-- The first id of each row, with which the row of the output begins. -/
def echoed (buffers : NamedBuffers) (cell : Nat) : Float32 :=
  if cell % 8 = 0 then Float32.ofNat ((firstIds buffers).getD (cell / 8 * 4) 0).toNat
  else Binary32.zero

theorem echoed_rowWise : RowWise 4 8 echoed := by
  refine ⟨echoed, fun batch buffers cell _ _ => ?_⟩
  have first : cell % 8 / 8 = 0 := Nat.div_eq_of_lt (Nat.mod_lt cell (by decide))
  simp [echoed, firstIds_row, first]

/-- A library without failures whose runs echo their rows. -/
def echoEngine : Engine where
  behaviour := {
    ({} : Scripted.Runtime).behaviour with
    fill := fun _ call _ cell element old =>
      match element, call with
      | .float, .run _ inputs _ => echoed (inputs.map fun input => (input.1.name, input.2)) cell
      | _, _ => old }

theorem echo_obliging (engine : Engine) (behaves : engine.behaviour = echoEngine.behaviour) :
    engine.Obliging "@/model.onnx" echoed where
  succeeds function number later := by
    rw [behaves]
    rfl
  computes number session inputs outputs cell old later made := by
    rw [behaves]
    rfl

/-- Two vocabulary entries, so that rows are as wide as those of the dense embedder. -/
def echoConfig : SparseConfig :=
  { trialSparse with vocabularySize := 2 }

def echoSparse : SparseEmbedder :=
  .configured "@/model.onnx" trialTokenizer echoConfig 2 ⟨8, [], []⟩

def echoedTexts : (Except EmbeddingError (List (List Float32)) × DenseEmbedder) × Engine :=
  freshDense.embedDocuments trialHost trialEnvironment ["a", "one two", ""] echoEngine

def echoedText : (Except EmbeddingError (List Float32) × DenseEmbedder) × Engine :=
  echoedTexts.1.2.embedQuery trialHost trialEnvironment "one two" echoedTexts.2

def echoedEntries : (Except EmbeddingError (List SparseVector) × SparseEmbedder) × Engine :=
  echoSparse.embedDocuments trialHost trialEnvironment ["a", "one two", ""] echoEngine

def echoedEntry : (Except EmbeddingError SparseVector × SparseEmbedder) × Engine :=
  echoedEntries.1.2.embedQuery trialHost trialEnvironment "one two" echoedEntries.2

def echoRow (id : Nat) : List Float32 :=
  [Float32.ofNat id, Binary32.zero]

/-- Only what is above zero is kept. -/
def echoEntry (id : Nat) : SparseVector where
  indices := [0]
  values := [Float32.ofNat id]
  labels := none

/-- A text in the middle of a batch, and asked for alone afterwards, by either kind of embedder. -/
theorem middle_text_alone :
    (echoedTexts.1.1 = .ok [echoRow 1, echoRow 3, echoRow 0] ∧ echoedText.1.1 = .ok (echoRow 3) ∧
      [echoRow 1, echoRow 3, echoRow 0][1]? = some (echoRow 3)) ∧
    (echoedEntries.1.1 = .ok [echoEntry 1, echoEntry 3, ⟨[], [], none⟩] ∧
      echoedEntry.1.1 = .ok (echoEntry 3) ∧
      [echoEntry 1, echoEntry 3, ⟨[], [], none⟩][1]? = some (echoEntry 3)) := by
  have transparent := batching_transparent "@/model.onnx" trialTokenizer echoed
  constructor
  · obtain ⟨after, opened, nothing⟩ : ∃ after, DenseEmbedder.withTokenizer trialHost
        "@/model.onnx" trialTokenizer trialDense echoEngine = .ok freshDense after ∧
          after.history = [] :=
      ⟨_, rfl, rfl⟩
    have start : DenseEmbedder.InUse "@/model.onnx" trialTokenizer trialDense freshDense
        echoEngine :=
      .elsewhere (.opened opened)
        (show echoEngine.history = [] ++ after.history by rw [nothing]; rfl)
    have together : echoedTexts.1.1 = .ok [echoRow 1, echoRow 3, echoRow 0] :=
      ok_of_toOption (by decide +kernel)
    have alone : echoedText.1.1 = .ok (echoRow 3) := ok_of_toOption (by decide +kernel)
    obtain ⟨-, each⟩ := transparent.1 trialDense freshDense echoEngine trialHost trialEnvironment
      ["a", "one two", ""] _ start echoed_rowWise (echo_obliging echoEngine rfl) together
    refine ⟨together, alone, ?_⟩
    exact each echoedTexts.1.2 echoedTexts.2 trialHost trialEnvironment 1 "one two" _
      (start.embedded trialHost trialEnvironment ["a", "one two", ""])
      (echo_obliging echoedTexts.2 rfl) rfl alone
  · obtain ⟨after, opened, nothing⟩ : ∃ after, SparseEmbedder.withTokenizer trialHost
        "@/model.onnx" trialTokenizer echoConfig echoEngine = .ok echoSparse after ∧
          after.history = [] :=
      ⟨_, rfl, rfl⟩
    have start : SparseEmbedder.InUse "@/model.onnx" trialTokenizer echoConfig echoSparse
        echoEngine :=
      .elsewhere (.opened opened)
        (show echoEngine.history = [] ++ after.history by rw [nothing]; rfl)
    have together : echoedEntries.1.1 = .ok [echoEntry 1, echoEntry 3, ⟨[], [], none⟩] :=
      ok_of_toOption (by decide +kernel)
    have alone : echoedEntry.1.1 = .ok (echoEntry 3) := ok_of_toOption (by decide +kernel)
    obtain ⟨-, each⟩ := transparent.2 echoConfig echoSparse echoEngine trialHost trialEnvironment
      ["a", "one two", ""] _ start echoed_rowWise (echo_obliging echoEngine rfl) together
    refine ⟨together, alone, ?_⟩
    exact each echoedEntries.1.2 echoedEntries.2 trialHost trialEnvironment 1 "one two" _
      (start.embedded trialHost trialEnvironment ["a", "one two", ""])
      (echo_obliging echoedEntries.2 rfl) rfl alone

end Trial

end TextVectors

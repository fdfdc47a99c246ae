import TextVectors.Embedding.Embedder

namespace TextVectors

/-! Sparse embedders: documents become vectors over the vocabulary.

Without windows all documents run in one batch, each cut to one row.  With a
stride each document is cut into windows that run as a batch of their own, and
the vectors of its windows are merged.
-/

open Inference

structure SparseEmbedder where
  binding : ModelBinding
  vocabularySize : Nat
  params : SparsifyParams
  returnLabels : Bool
  /-- Zero without windows. -/
  stride : Nat
  preProcessor : Option PreProcessor
  /-- Gone once the embedder is closed. -/
  tokenizer : Option Tokenizer
  sessions : SessionCache BatchSession
  /-- Decoded tokens by vocabulary index. -/
  labels : List (Nat × String)

namespace SparseEmbedder

/-- The configured vocabulary size, or the tokenizer's where none is set. -/
def deriveVocabulary (configured : Nat) (tokenizer : Tokenizer) : Except ConfigFault Nat :=
  match configured with
  | 0 =>
      match tokenizer.vocabularySize with
      | some 0 => .error .vocabularyEmpty
      | some size => .ok size
      | none => .error .vocabularyUnknown
  | size => .ok size

/-- The configuration with the size of its vocabulary. -/
def settle (tokenizer : Tokenizer) (config : SparseConfig) : Except ConfigFault SparseConfig := do
  return { config with vocabularySize := ← deriveVocabulary config.vocabularySize tokenizer }

def build (modelPath : String) (config : SparseConfig) (memory : EmbedderMemory) :
    SparseEmbedder where
  binding := config.model.binding modelPath
  vocabularySize := config.vocabularySize
  params := {
    layout := config.layout
    threshold := config.threshold
    topK := config.topK
    logActivation := config.logActivation }
  returnLabels := config.returnLabels
  stride := config.stride
  preProcessor := config.preProcessor
  tokenizer := memory.tokenizer
  sessions := memory.sessions
  labels := memory.labels

def outputShape (embedder : SparseEmbedder) (batch : Nat) : List Int :=
  embedder.params.layout.outputShape batch embedder.binding.sequenceLength
    embedder.vocabularySize

/-- Sends documents through the pre-processor, up to the first at which it
breaks down. -/
def preprocess (preProcessor : Option PreProcessor) :
    Nat → List String → Action EmbeddingError (List String)
  | _, [] => return []
  | position, document :: rest => do
      match preProcessor with
      | none => return document :: rest
      | some processor =>
          Engine.consult (.preprocess document)
          match processor.apply document with
          | .error payload => throw (.preProcessorBreakdown position payload.message)
          | .ok changed => return changed :: (← preprocess preProcessor (position + 1) rest)

def runContext : String :=
  "sparse embedding inference failed"

def sparsifyRows (embedder : SparseEmbedder) : Reduction SparseVector := fun logits mask batch =>
  Sparse.sparsify embedder.params logits mask batch embedder.binding.sequenceLength
    embedder.vocabularySize

def embedFixed (embedder : SparseEmbedder) (source : EmbedAction.Source) (tokenizer : Tokenizer)
    (documents : List String) : EmbedAction (List SparseVector) :=
  EmbedAction.embedRows source tokenizer embedder.sparsifyRows runContext documents

def windowsOf (embedder : SparseEmbedder) (tokenizer : Tokenizer) (document : String) :
    Step (Except EmbeddingError (List Window)) := do
  match ← tokenizer.askEncode document with
  | .error error => return .error (.tokenizer error)
  | .ok encoding =>
      return (Window.split encoding embedder.binding.sequenceLength embedder.stride
        embedder.binding.usesTokenTypes).mapError .invalidInput

/-- One document in windows.  Every positive entry of a window is kept until the
windows are merged; the result is pruned once. -/
def embedWindows (embedder : SparseEmbedder) (source : EmbedAction.Source) (tokenizer : Tokenizer)
    (position : Nat) (document : String) : EmbedAction SparseVector := do
  let result ← EmbedAction.ofStep (embedder.windowsOf tokenizer document)
  let windows ← EmbedAction.ofExcept (result.mapError
    (.context s!"failed to tokenize sliding windows for document {position}"))
  EmbedAction.ofStep (note .trace s!"Document {position} split into {windows.length} windows")
  let bundle ← EmbedAction.runBatch source windows.length
    (fun bundle => bundle.fillWindows windows)
    (.context s!"failed to prepare sliding window tensors for document {position}") runContext
  let params := { embedder.params with threshold := Binary32.zero, topK := 0 }
  let perWindow ← EmbedAction.ofExcept ((Sparse.sparsify params bundle.output.cells
    bundle.mask.cells windows.length embedder.binding.sequenceLength
    embedder.vocabularySize).mapError .invalidInput)
  EmbedAction.ofExcept ((Sparse.mergeWindows perWindow embedder.params.threshold
    embedder.params.topK).mapError
      (.context s!"failed to merge sliding window embeddings for document {position}"))

/-- Documents one after the other, each in its own windows. -/
def embedSliding (embedder : SparseEmbedder) (source : EmbedAction.Source)
    (tokenizer : Tokenizer) : Nat → List String → EmbedAction (List SparseVector)
  | _, [] => return []
  | position, document :: rest => do
      let vector ← embedder.embedWindows source tokenizer position document
      return vector :: (← embedder.embedSliding source tokenizer (position + 1) rest)

/-- The label of one index: remembered, or decoded and then remembered. -/
def labelOf (tokenizer : Tokenizer) (index : Nat) : EmbedAction String := do
  match (← get).labels.lookup index with
  | some label => return label
  | none =>
      if index ≥ halfWordLimit then throw (.invalidInput (.indexTooLarge index))
      match ← EmbedAction.ofStep (tokenizer.askDecode [index] false) with
      | .error error =>
          throw (.context s!"failed to decode sparse index {index}" (.tokenizer error))
      | .ok label =>
          modify fun state => { state with labels := (index, label) :: state.labels }
          return label

/-- Labels for all indices of a vector; a vector without entries stays
unlabelled. -/
def attachLabels (tokenizer : Tokenizer) (vector : SparseVector) : EmbedAction SparseVector := do
  if vector.isEmpty then return vector
  let labels ← vector.indices.mapM (labelOf tokenizer)
  return { vector with labels := some labels }

def work (embedder : SparseEmbedder) (source : EmbedAction.Source) (tokenizer : Tokenizer)
    (documents : List String) : EmbedAction (List SparseVector) := do
  let documents ← EmbedAction.ofAction (preprocess embedder.preProcessor 0 documents)
  let vectors ←
    if embedder.stride > 0 then embedder.embedSliding source tokenizer 0 documents
    else embedder.embedFixed source tokenizer documents
  if embedder.returnLabels then vectors.mapM (attachLabels tokenizer) else return vectors

def remember (embedder : SparseEmbedder) (memory : EmbedderMemory) : SparseEmbedder :=
  { embedder with
    tokenizer := memory.tokenizer
    sessions := memory.sessions
    labels := memory.labels }

theorem embedSliding_remember (embedder : SparseEmbedder) (memory : EmbedderMemory)
    (source : EmbedAction.Source) (tokenizer : Tokenizer) (position : Nat)
    (documents : List String) :
    (embedder.remember memory).embedSliding source tokenizer position documents =
      embedder.embedSliding source tokenizer position documents := by
  induction documents generalizing position with
  | nil => rfl
  | cons document rest ih =>
      rw [embedSliding, embedSliding, ih (position + 1)]
      rfl

theorem work_remember (embedder : SparseEmbedder) (memory : EmbedderMemory) :
    (embedder.remember memory).work = embedder.work := by
  funext source tokenizer documents
  simp only [work, embedSliding_remember]
  rfl

/-- Without windows the encodings of a tokenizer that is read from a file have exactly the
length of a row. -/
def kind : EmbedderKind SparseConfig SparseEmbedder SparseVector where
  title := "Sparse"
  model config := config.model
  validate := SparseConfig.validate
  settle := settle
  fixedLength config := if config.usesWindows then none else some config.model.sequenceLength
  build := build
  summary embedder := s!" vocab={embedder.vocabularySize} layout={embedder.params.layout.name}" ++
    s!" stride={embedder.stride}"
  binding := binding
  outputShape embedder batch := .ok (embedder.outputShape batch)
  work := work
  memory embedder :=
    { tokenizer := embedder.tokenizer, sessions := embedder.sessions, labels := embedder.labels }
  remember := remember
  binding_build _ _ _ := rfl
  remember_build _ _ _ _ := rfl
  binding_remember _ _ := rfl
  outputShape_remember _ _ := rfl
  work_remember := work_remember
  remember_remember _ _ _ := rfl
  remember_memory _ := rfl
  tokenizer_remember _ _ := rfl
  sessions_remember _ _ := rfl
  labels_remember _ _ := List.Subset.refl _

def withTokenizer (host : Host) (modelPath : String) (tokenizer : Tokenizer)
    (config : SparseConfig) : Action EmbeddingError SparseEmbedder :=
  kind.withTokenizer host modelPath tokenizer config

def fromFiles (host : Host) (modelPath tokenizerPath : String) (config : SparseConfig) :
    Action EmbeddingError SparseEmbedder :=
  kind.fromFiles host modelPath tokenizerPath config

def isClosed (embedder : SparseEmbedder) : Bool :=
  kind.isClosed embedder

def source (embedder : SparseEmbedder) (host : Host) (runtime : Runtime) : EmbedAction.Source :=
  kind.source embedder host runtime

def embedDocuments (embedder : SparseEmbedder) (host : Host) (environment : Environment)
    (documents : List String) :
    Step (Except EmbeddingError (List SparseVector) × SparseEmbedder) :=
  kind.embedDocuments embedder host environment documents

def embedQuery (embedder : SparseEmbedder) (host : Host) (environment : Environment)
    (query : String) : Step (Except EmbeddingError SparseVector × SparseEmbedder) :=
  kind.embedQuery embedder host environment query

def close (embedder : SparseEmbedder) : Step (Except EmbeddingError Unit × SparseEmbedder) :=
  kind.close embedder

def discard (embedder : SparseEmbedder) : Step Unit :=
  kind.discard embedder

def description (embedder : SparseEmbedder) : String :=
  let params := embedder.params
  Text.braced "SparseEmbedder" [
    ("model_path", Text.quotedPath embedder.binding.modelPath),
    ("sequence_length", toString embedder.binding.sequenceLength),
    ("vocab_size", toString embedder.vocabularySize),
    ("params", Text.braced "SparsifyParams" [
      ("layout", params.layout.title),
      ("prune_threshold", Decimal.Style.description.render params.threshold),
      ("top_k", toString params.topK),
      ("log1p_relu", toString params.logActivation)]),
    ("return_labels", toString embedder.returnLabels),
    ("sliding_window_stride", toString embedder.stride)]

end SparseEmbedder

end TextVectors

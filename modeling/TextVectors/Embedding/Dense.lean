import TextVectors.Embedding.Embedder

namespace TextVectors

/-! Dense embedders: a batch of documents is run once, and the states of each
row are pooled into one vector.
-/

open Inference

structure DenseEmbedder where
  binding : ModelBinding
  embeddingDimension : Nat
  pooling : Pooling
  l2Normalize : Bool
  /-- Gone once the embedder is closed. -/
  tokenizer : Option Tokenizer
  sessions : SessionCache BatchSession

namespace DenseEmbedder

def build (modelPath : String) (config : DenseConfig) (memory : EmbedderMemory) :
    DenseEmbedder where
  binding := config.model.binding modelPath
  embeddingDimension := config.embeddingDimension
  pooling := config.pooling
  l2Normalize := config.l2Normalize
  tokenizer := memory.tokenizer
  sessions := memory.sessions

/-- Length of each vector. -/
def outputDimension (embedder : DenseEmbedder) : Nat :=
  embedder.pooling.outputDimension embedder.binding.sequenceLength embedder.embeddingDimension

/-- The output holds the states of every token. -/
def outputShape (embedder : DenseEmbedder) (batch : Nat) : Except EmbeddingError (List Int) :=
  ([batch, embedder.binding.sequenceLength, embedder.embeddingDimension].mapM dimension).mapError
    .invalidInput

def poolRows (embedder : DenseEmbedder) : Reduction (List Float32) := fun states mask batch =>
  embedder.pooling.pool states mask batch embedder.binding.sequenceLength
    embedder.embeddingDimension embedder.l2Normalize

def work (embedder : DenseEmbedder) (source : EmbedAction.Source) (tokenizer : Tokenizer)
    (documents : List String) : EmbedAction (List (List Float32)) :=
  EmbedAction.embedRows source tokenizer embedder.poolRows "embedding inference failed" documents

/-- Encodings of a tokenizer that is read from a file have exactly the length of a row. -/
def kind : EmbedderKind DenseConfig DenseEmbedder (List Float32) where
  title := "Dense"
  model config := config.model
  validate := DenseConfig.validate
  settle _ config := .ok config
  fixedLength config := some config.model.sequenceLength
  build := build
  summary embedder := s!" dim={embedder.embeddingDimension} pooling={embedder.pooling.name}"
  binding := binding
  outputShape := outputShape
  work := work
  memory embedder :=
    { tokenizer := embedder.tokenizer, sessions := embedder.sessions, labels := [] }
  remember embedder memory :=
    { embedder with tokenizer := memory.tokenizer, sessions := memory.sessions }
  binding_build _ _ _ := rfl
  remember_build _ _ _ _ := rfl
  binding_remember _ _ := rfl
  outputShape_remember _ _ := rfl
  work_remember _ _ := rfl
  remember_remember _ _ _ := rfl
  remember_memory _ := rfl
  tokenizer_remember _ _ := rfl
  sessions_remember _ _ := rfl
  labels_remember _ _ := List.nil_subset _

def withTokenizer (host : Host) (modelPath : String) (tokenizer : Tokenizer)
    (config : DenseConfig) : Action EmbeddingError DenseEmbedder :=
  kind.withTokenizer host modelPath tokenizer config

def fromFiles (host : Host) (modelPath tokenizerPath : String) (config : DenseConfig) :
    Action EmbeddingError DenseEmbedder :=
  kind.fromFiles host modelPath tokenizerPath config

def isClosed (embedder : DenseEmbedder) : Bool :=
  kind.isClosed embedder

def embedDocuments (embedder : DenseEmbedder) (host : Host) (environment : Environment)
    (documents : List String) :
    Step (Except EmbeddingError (List (List Float32)) × DenseEmbedder) :=
  kind.embedDocuments embedder host environment documents

def embedQuery (embedder : DenseEmbedder) (host : Host) (environment : Environment)
    (query : String) : Step (Except EmbeddingError (List Float32) × DenseEmbedder) :=
  kind.embedQuery embedder host environment query

def close (embedder : DenseEmbedder) : Step (Except EmbeddingError Unit × DenseEmbedder) :=
  kind.close embedder

def discard (embedder : DenseEmbedder) : Step Unit :=
  kind.discard embedder

def description (embedder : DenseEmbedder) : String :=
  Text.braced "DenseEmbedder" [
    ("model_path", Text.quotedPath embedder.binding.modelPath),
    ("sequence_length", toString embedder.binding.sequenceLength),
    ("embedding_dimension", toString embedder.embeddingDimension),
    ("pooling", embedder.pooling.title),
    ("l2_normalize", toString embedder.l2Normalize)]

end DenseEmbedder

end TextVectors

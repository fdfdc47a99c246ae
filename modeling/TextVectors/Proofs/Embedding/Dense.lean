import TextVectors.Embedding.Dense
import TextVectors.Proofs.Embedding.Kind

namespace TextVectors.DenseEmbedder

/-! What shows of a dense embedder's work depends on nothing that it remembers. -/

open Inference EmbedAction

abbrev InUse (modelPath : String) (tokenizer : Tokenizer) (config : DenseConfig) :
    DenseEmbedder → Engine → Prop :=
  kind.InUse modelPath tokenizer config

/-- An embedder as it is configured, with some sessions. -/
def configured (modelPath : String) (tokenizer : Tokenizer) (config : DenseConfig)
    (sessions : SessionCache BatchSession) : DenseEmbedder :=
  kind.configured modelPath tokenizer config sessions

def boundModel (embedder : DenseEmbedder) (compute : NamedBuffers → Nat → Float32) : BoundModel :=
  ⟨embedder.binding, embedder.outputShape, compute⟩

/-- What shows of the work on documents. -/
def shown (embedder : DenseEmbedder) (tokenizer : Tokenizer)
    (compute : NamedBuffers → Nat → Float32) (documents : List String) :
    Transcript (List (List Float32)) :=
  (embedder.boundModel compute).rowsAnswer tokenizer embedder.poolRows documents

theorem work_shows : kind.Shows shown := by
  intro embedder tokenizer compute host runtime documents
  exact embedRows_regular _ tokenizer host runtime embedder.poolRows _ documents

end TextVectors.DenseEmbedder

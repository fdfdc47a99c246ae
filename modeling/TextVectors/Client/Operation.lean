import TextVectors.Client.NameTable
import TextVectors.Embedding.Dense
import TextVectors.Embedding.Sparse

namespace TextVectors.Client

/-! What a client can ask for, and what it is answered.

A client gives names to the runtimes, tensors, sessions and embedders it holds,
and speaks about them by these names.
-/

open Inference

/-- A shape as it is given: its dimensions, or a text that is read first. -/
inductive ShapeSource where
  | dims (dims : List Int)
  | text (text : String)
deriving Repr, DecidableEq

def ShapeSource.shape : ShapeSource → Except ShapeFault Shape
  | .dims sizes => .ok ⟨sizes⟩
  | .text written => Shape.ofText written

/-- Where the tokenizer of a new embedder comes from. -/
inductive TokenizerSource where
  | file (path : String)
  | given (tokenizer : Tokenizer)

/-- Values to bind to a session or to run it on, by the names of tensors. -/
structure TensorNames where
  inputs : List String
  outputs : List String
deriving Repr, DecidableEq

inductive Operation where
  /-- Looks at the environment without changing anything. -/
  | inspect
  | setLibraryPath (path : String)
  | setLogLevel (level : Json)
  | load
  | unload
  /-- So many loads, none of which waits for another one to be undone. -/
  | loadTimes (count : Nat)
  | unloadTimes (count : Nat)
  | holdRuntime (name : String)
  /-- Without cells the tensor is filled with zeros, and without a runtime it is
  made from the loaded one. -/
  | createTensor (name : String) (element : ElementType) (shape : ShapeSource)
      (cells : Option (List element.Cell)) (runtime : Option String)
  | readTensor (name : String)
  /-- The value is given for whatever type the tensor has. -/
  | writeTensor (name : String) (position : Nat) (value : (element : ElementType) → element.Cell)
  | destroyTensor (name : String)
  | createSession (name model : String) (inputNames outputNames : List String)
      (tensors : TensorNames) (options : Option Json) (runtime : Option String)
  | readSession (name : String)
  | destroySession (name : String)
  | runSession (name : String) (tensors : TensorNames)
  | openDense (name model : String) (tokenizer : TokenizerSource) (config : Json)
  | openSparse (name model : String) (tokenizer : TokenizerSource) (config : Json)
      (preProcessor : Option PreProcessor)
  | embed (name : String) (documents : List String)
  | query (name text : String)
  | close (name : String)
  /-- Gives up what is held under a name. -/
  | discard (name : String)
  | describe (name : String)

/-- Why an operation is not carried out. -/
inductive ClientError where
  | unknownName
  /-- Settings that do not have their form. -/
  | unreadable
  | runtime (error : RuntimeError)
  | embedding (error : EmbeddingError)
deriving Repr

inductive Reply where
  | done
  | succeeded (count : Nat)
  | runtime (runtime : Runtime)
  | tensor (tensor : AnyTensor)
  | session (session : Session)
  | outputs (contents : List Contents)
  | dense (embedder : DenseEmbedder)
  | sparse (embedder : SparseEmbedder)
  | rows (rows : List (List Float32))
  | row (row : List Float32)
  | vectors (vectors : List SparseVector)
  | vector (vector : SparseVector)
  | discarded (found : Bool)
  | description (text : String)

end TextVectors.Client

import TextVectors.Decimal.Style
import TextVectors.Inference.Error
import TextVectors.Tokenizer.Basic

namespace TextVectors

/-! What can go wrong while texts are turned into vectors.

Each error names its cause; the wording is in the `message` functions only.
-/

inductive ConfigFault where
  | sequenceLengthZero
  | cacheCapacityZero
  | emptyName
  | dimensionZero
  | badThreshold (threshold : Float32)
  | strideTooLong (sequenceLength stride : Nat)
  | unknownPooling (text : String)
  | unknownLayout (text : String)
  | vocabularyEmpty
  | vocabularyUnknown
  | described (text : String)
deriving Repr, DecidableEq

def badThresholdText (threshold : Float32) : String :=
  s!"prune threshold must be >= 0, got {Decimal.Style.message.render threshold}"

def ConfigFault.message : ConfigFault → String
  | .sequenceLengthZero => "sequence length must be > 0"
  | .cacheCapacityZero => "max cached batch sessions must be > 0"
  | .emptyName => "input_ids, attention_mask, and output names cannot be empty"
  | .dimensionZero => "embedding dimension must be > 0"
  | .badThreshold threshold => badThresholdText threshold
  | .strideTooLong sequenceLength stride =>
      s!"sliding window stride must be <= sequence length ({sequenceLength}), got {stride}"
  | .unknownPooling text => s!"unsupported pooling strategy: {Text.quoted text}"
  | .unknownLayout text => s!"unsupported output layout: {Text.quoted text}"
  | .vocabularyEmpty => "derived vocabulary size is zero"
  | .vocabularyUnknown => "failed to derive vocabulary size from tokenizer"
  | .described text => text

/-- The parts of a token buffer. -/
inductive TokenPart where
  | mask
  | types
deriving Repr, DecidableEq

def TokenPart.name : TokenPart → String
  | .mask => "attention_mask"
  | .types => "type_ids"

/-- Buffers whose length has to fit the sizes given with them. -/
inductive BufferKind where
  | attentionMask
  | hiddenState
  | tokenLogits
  | documentLogits
deriving Repr, DecidableEq

def BufferKind.name : BufferKind → String
  | .attentionMask => "attention mask"
  | .hiddenState => "hidden state"
  | .tokenLogits => "token logits"
  | .documentLogits => "document logits"

inductive InputFault where
  | batchZero
  | sequenceLengthZero
  | dimensionZero
  | vocabularyZero
  | badThreshold (threshold : Float32)
  | sizeOverflow (sizes : List Nat)
  | lengthMismatch (kind : BufferKind) (actual expected : Nat)
  | badStride (sequenceLength stride : Nat)
  | partLength (part : TokenPart) (entries tokens : Nat)
  | noWindows
  | tokenBufferLength (ids mask expected : Nat)
  | typeBufferLength (actual expected : Nat)
  | windowLength (window ids mask expected : Nat)
  | windowTypeLength (window actual expected : Nat)
  | windowWithoutTypes (window : Nat)
  | windowWithTypes (window : Nat)
  | valueCount (indices values : Nat)
  | labelCount (labels indices : Nat)
  | indexOrder (position : Nat)
  | rowCount (batch rows : Nat)
  | dimensionOverflow (size : Nat)
  | emptyPath (subject : String)
  | missingEntry (batch : Nat)
  | indexTooLarge (index : Nat)
  | resultCount (rows : Nat)
  | described (text : String)
deriving Repr, DecidableEq

def InputFault.message : InputFault → String
  | .batchZero => "batch size must be > 0"
  | .sequenceLengthZero => "sequence length must be > 0"
  | .dimensionZero => "embedding dimension must be > 0"
  | .vocabularyZero => "vocabulary size must be > 0"
  | .badThreshold threshold => badThresholdText threshold
  | .sizeOverflow sizes =>
      s!"buffer of shape {Text.bracketed (sizes.map toString)} overflows usize"
  | .lengthMismatch kind actual expected =>
      s!"{kind.name} length mismatch: got {actual}, want {expected}"
  | .badStride sequenceLength stride =>
      s!"sliding window stride must be in 1..={sequenceLength}, got {stride}"
  | .partLength part entries tokens =>
      s!"{part.name} has {entries} entries for {tokens} token ids"
  | .noWindows => "window batch cannot be empty"
  | .tokenBufferLength ids mask expected =>
      s!"token buffer length mismatch: got input_ids={ids} attention_mask={mask}, want {expected}"
  | .typeBufferLength actual expected =>
      s!"token_type_ids buffer length mismatch: got {actual}, want {expected}"
  | .windowLength window ids mask expected =>
      s!"window {window} has invalid sequence length: input_ids={ids} attention_mask={mask}" ++
        s!" want {expected}"
  | .windowTypeLength window actual expected =>
      s!"window {window} has invalid token_type_ids length: got {actual} want {expected}"
  | .windowWithoutTypes window => s!"window {window} is missing token_type_ids"
  | .windowWithTypes window =>
      s!"window {window} includes token_type_ids but the session does not expect them"
  | .valueCount indices values =>
      s!"sparse vector has mismatched indices/values lengths: indices={indices} values={values}"
  | .labelCount labels indices =>
      s!"sparse vector has mismatched labels/indices lengths: labels={labels} indices={indices}"
  | .indexOrder position =>
      s!"sparse vector indices are not strictly increasing at position {position}"
  | .rowCount batch rows => s!"batch-{batch} session cannot hold {rows} rows"
  | .dimensionOverflow size => s!"dimension {size} overflows i64"
  | .emptyPath subject => s!"{subject} path cannot be empty"
  | .missingEntry batch => s!"batch-{batch} session missing from cache"
  | .indexTooLarge index => s!"sparse index {index} is out of u32 range"
  | .resultCount rows => s!"unexpected embedding row count: got {rows}, want 1"
  | .described text => text

inductive EmbeddingError where
  | config (fault : ConfigFault)
  | invalidInput (fault : InputFault)
  | fileNotFound (description : String)
  | closed
  | runtimeNotInitialized
  | preProcessorBreakdown (index : Nat) (text : String)
  | context (text : String) (source : EmbeddingError)
  | runtime (error : Inference.RuntimeError)
  | tokenizer (error : TokenizerError)
  | json (reason : String)
  | multiple (errors : List EmbeddingError)
deriving Repr, Inhabited

namespace EmbeddingError

mutual

def message : EmbeddingError → String
  | .config fault => s!"Invalid configuration: {fault.message}"
  | .invalidInput fault => s!"Invalid input: {fault.message}"
  | .fileNotFound description => s!"File not found: {description}"
  | .closed => "Embedder has been closed"
  | .runtimeNotInitialized => Inference.RuntimeError.notInitializedText
  | .preProcessorBreakdown index text => s!"pre-processor panic on document {index}: {text}"
  | .context text source => text ++ ": " ++ source.message
  | .runtime error => error.message
  | .tokenizer error => error.message
  | .json reason => s!"Failed to parse configuration: {reason}"
  | .multiple errors => String.intercalate "; " (messages errors)

def messages : List EmbeddingError → List String
  | [] => []
  | error :: rest => error.message :: messages rest

end

/-- The members of a joined error; any other error stands for itself. -/
def parts : EmbeddingError → List EmbeddingError
  | .multiple errors => errors
  | error => [error]

/-- Joins failures into one error.  Errors that are joined themselves contribute
their members, one level deep; a single member is returned as it is. -/
def join (errors : List EmbeddingError) : Option EmbeddingError :=
  match errors.flatMap parts with
  | [] => none
  | [error] => some error
  | flat => some (.multiple flat)

/-- The texts of the underlying causes, outermost first. -/
def sources : EmbeddingError → List String
  | .context _ source => source.message :: source.sources
  | .runtime error => error.sources
  | _ => []

end EmbeddingError

end TextVectors

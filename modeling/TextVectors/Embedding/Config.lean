import TextVectors.Inference.SessionOptions
import TextVectors.Json.Reader
import TextVectors.Json.Writer
import TextVectors.Sparse.Logits

namespace TextVectors

/-! Configurations of the two kinds of embedders.

A configuration is read from JSON as an overlay on the defaults: what is left out
keeps its default.  Reading a text also validates the result.
-/

/-- What both kinds have in common: the model's inputs and output, the length of
its rows, and how it is run. -/
structure ModelConfig where
  sequenceLength : Nat := 256
  maxCachedSessions : Nat := 8
  inputIdsName : String
  attentionMaskName : String
  /-- Empty for models without token type ids. -/
  tokenTypeIdsName : String
  outputName : String
  session : Inference.SessionOptions := {}
deriving Repr, DecidableEq

namespace ModelConfig

def usesTokenTypes (config : ModelConfig) : Bool :=
  config.tokenTypeIdsName != ""

/-- The names of the inputs in the order in which they are bound. -/
def inputNames (config : ModelConfig) : List String :=
  [config.inputIdsName, config.attentionMaskName] ++
    if config.usesTokenTypes then [config.tokenTypeIdsName] else []

def validate (config : ModelConfig) : Except ConfigFault Unit := do
  if config.sequenceLength = 0 then throw .sequenceLengthZero
  if config.maxCachedSessions = 0 then throw .cacheCapacityZero
  if config.inputIdsName = "" ∨ config.attentionMaskName = "" ∨ config.outputName = "" then
    throw .emptyName

def fieldNames : List String :=
  ["sequence_length", "max_cached_batch_sessions", "input_ids_name", "attention_mask_name",
   "token_type_ids_name", "output_name"]

def size? : Json → Option Nat :=
  Json.natural? wordLimit

def ofFields? (fields : Json.Fields) (default : ModelConfig) : Option ModelConfig := do
  let sequenceLength ← fields.withDefault "sequence_length" size? default.sequenceLength
  let maxCachedSessions ←
    fields.withDefault "max_cached_batch_sessions" size? default.maxCachedSessions
  let inputIdsName ← fields.withDefault "input_ids_name" Json.text? default.inputIdsName
  let attentionMaskName ←
    fields.withDefault "attention_mask_name" Json.text? default.attentionMaskName
  let tokenTypeIdsName ←
    fields.withDefault "token_type_ids_name" Json.text? default.tokenTypeIdsName
  let outputName ← fields.withDefault "output_name" Json.text? default.outputName
  let session ← fields.withDefault "session" Inference.SessionOptions.ofJson? default.session
  return {
    sequenceLength, maxCachedSessions, inputIdsName, attentionMaskName, tokenTypeIdsName,
    outputName, session }

/-- The members in front of those of the kind of embedder. -/
def members (config : ModelConfig) : List (String × Json) :=
  [("sequence_length", .natural config.sequenceLength),
   ("max_cached_batch_sessions", .natural config.maxCachedSessions),
   ("input_ids_name", .text config.inputIdsName),
   ("attention_mask_name", .text config.attentionMaskName),
   ("token_type_ids_name", .text config.tokenTypeIdsName),
   ("output_name", .text config.outputName)]

end ModelConfig

inductive ModelSetting where
  | sequenceLength (length : Nat)
  | maxCachedSessions (limit : Nat)
  | names (inputIds attentionMask tokenTypeIds output : String)
  | withoutTokenTypes
  | session (options : Inference.SessionOptions)
deriving Repr

def ModelConfig.set (config : ModelConfig) : ModelSetting → ModelConfig
  | .sequenceLength length => { config with sequenceLength := length }
  | .maxCachedSessions limit => { config with maxCachedSessions := limit }
  | .names inputIds attentionMask tokenTypeIds output =>
      { config with
        inputIdsName := inputIds
        attentionMaskName := attentionMask
        tokenTypeIdsName := tokenTypeIds
        outputName := output }
  | .withoutTokenTypes => { config with tokenTypeIdsName := "" }
  | .session options => { config with session := options }

/-- A configuration if it is valid, and otherwise what is wrong with it. -/
def validatedBy (validate : C → Except ConfigFault Unit) (config : C) : Except EmbeddingError C :=
  match validate config with
  | .ok () => .ok config
  | .error fault => .error (.config fault)

/-- Reads a JSON text and validates the result; the reader's own explanation of a
failure is cut. -/
def readValidated (ofJson? : Json → Option C) (validate : C → Except ConfigFault Unit)
    (text : String) : Except EmbeddingError C :=
  match (Json.read? text).bind ofJson? with
  | none => .error (.json "<reason>")
  | some config => validatedBy validate config

/-- Dense embedders pool the states of a transformer model. -/
structure DenseConfig where
  model : ModelConfig := {
    inputIdsName := "input_ids"
    attentionMaskName := "attention_mask"
    tokenTypeIdsName := "token_type_ids"
    outputName := "last_hidden_state" }
  embeddingDimension : Nat := 384
  pooling : Pooling := .mean
  l2Normalize : Bool := true
deriving Repr, DecidableEq

inductive DenseSetting where
  | model (setting : ModelSetting)
  | embeddingDimension (dimension : Nat)
  | pooling (pooling : Pooling)
  | l2Normalize (enabled : Bool)
deriving Repr

namespace DenseConfig

def fieldNames : List String :=
  ModelConfig.fieldNames ++ ["embedding_dimension", "pooling", "l2_normalize", "session"]

def ofJson? (value : Json) : Option DenseConfig := do
  let default : DenseConfig := {}
  let fields ← value.fields? fieldNames
  let model ← ModelConfig.ofFields? fields default.model
  let embeddingDimension ←
    fields.withDefault "embedding_dimension" ModelConfig.size? default.embeddingDimension
  let pooling ← fields.withDefault "pooling" Pooling.ofJson? default.pooling
  let l2Normalize ← fields.withDefault "l2_normalize" Json.bool? default.l2Normalize
  return { model, embeddingDimension, pooling, l2Normalize }

/-- What is written for a configuration, with some object for the session options. -/
def membersWith (config : DenseConfig) (session : Json) : List (String × Json) :=
  config.model.members ++ [
    ("embedding_dimension", .natural config.embeddingDimension),
    ("pooling", .text config.pooling.name),
    ("l2_normalize", .bool config.l2Normalize),
    ("session", session)]

def toJson (config : DenseConfig) : Json :=
  .record (config.membersWith config.model.session.toJson)

def validate (config : DenseConfig) : Except ConfigFault Unit := do
  config.model.validate
  if config.embeddingDimension = 0 then throw .dimensionZero

/-- A configuration if it is valid, and otherwise what is wrong with it. -/
def validated (config : DenseConfig) : Except EmbeddingError DenseConfig :=
  validatedBy validate config

def ofText (text : String) : Except EmbeddingError DenseConfig :=
  readValidated ofJson? validate text

def set (config : DenseConfig) : DenseSetting → DenseConfig
  | .model setting => { config with model := config.model.set setting }
  | .embeddingDimension dimension => { config with embeddingDimension := dimension }
  | .pooling pooling => { config with pooling }
  | .l2Normalize enabled => { config with l2Normalize := enabled }

def isDefault (config : DenseConfig) : Bool :=
  config == {}

end DenseConfig

/-- What a broken pre-processor leaves behind: a text, or something else. -/
inductive Breakdown where
  | text (text : String)
  | other
deriving Repr, DecidableEq

def Breakdown.message : Breakdown → String
  | .text message => message
  | .other => "non-string panic payload"

/-- A change of each document before it is tokenized, which may break down. -/
structure PreProcessor where
  apply : String → Except Breakdown String

/-- Sparse embedders select from the logits of a masked language model. -/
structure SparseConfig where
  model : ModelConfig := {
    inputIdsName := "input_ids"
    attentionMaskName := "input_mask"
    tokenTypeIdsName := "segment_ids"
    outputName := "output" }
  /-- Zero takes the size from the tokenizer. -/
  vocabularySize : Nat := 0
  layout : OutputLayout := .tokenLogits
  threshold : Float32 := Binary32.zero
  topK : Nat := 0
  logActivation : Bool := true
  returnLabels : Bool := false
  /-- Zero turns windows off. -/
  stride : Nat := 0
  preProcessor : Option PreProcessor := none

inductive SparseSetting where
  | model (setting : ModelSetting)
  | vocabularySize (size : Nat)
  | layout (layout : OutputLayout)
  | threshold (threshold : Float32)
  | topK (count : Nat)
  | logActivation (enabled : Bool)
  | returnLabels (enabled : Bool)
  | stride (stride : Nat)
  | preProcessor (preProcessor : PreProcessor)

namespace SparseConfig

def usesWindows (config : SparseConfig) : Bool :=
  config.stride > 0

def fieldNames : List String :=
  ModelConfig.fieldNames ++
    ["vocab_size", "output_layout", "prune_threshold", "top_k", "log1p_relu", "return_labels",
     "sliding_window_stride", "session"]

def ofJson? (value : Json) : Option SparseConfig := do
  let default : SparseConfig := {}
  let fields ← value.fields? fieldNames
  let model ← ModelConfig.ofFields? fields default.model
  let vocabularySize ← fields.withDefault "vocab_size" ModelConfig.size? default.vocabularySize
  let layout ← fields.withDefault "output_layout" OutputLayout.ofJson? default.layout
  let threshold ← fields.withDefault "prune_threshold" Json.binary32? default.threshold
  let topK ← fields.withDefault "top_k" ModelConfig.size? default.topK
  let logActivation ← fields.withDefault "log1p_relu" Json.bool? default.logActivation
  let returnLabels ← fields.withDefault "return_labels" Json.bool? default.returnLabels
  let stride ← fields.withDefault "sliding_window_stride" ModelConfig.size? default.stride
  return {
    model, vocabularySize, layout, threshold, topK, logActivation, returnLabels, stride }

/-- What is written for a configuration, with some object for the session options. -/
def membersWith (config : SparseConfig) (session : Json) : List (String × Json) :=
  config.model.members ++ [
    ("vocab_size", .natural config.vocabularySize),
    ("output_layout", .text config.layout.name),
    ("prune_threshold", .ofBinary32 config.threshold),
    ("top_k", .natural config.topK),
    ("log1p_relu", .bool config.logActivation),
    ("return_labels", .bool config.returnLabels),
    ("sliding_window_stride", .natural config.stride),
    ("session", session)]

/-- A pre-processor has no written form. -/
def toJson (config : SparseConfig) : Json :=
  .record (config.membersWith config.model.session.toJson)

def validate (config : SparseConfig) : Except ConfigFault Unit := do
  config.model.validate
  if config.threshold.isNaN || config.threshold < Binary32.zero then
    throw (.badThreshold config.threshold)
  if config.stride > config.model.sequenceLength then
    throw (.strideTooLong config.model.sequenceLength config.stride)

/-- A configuration if it is valid, and otherwise what is wrong with it. -/
def validated (config : SparseConfig) : Except EmbeddingError SparseConfig :=
  validatedBy validate config

def ofText (text : String) : Except EmbeddingError SparseConfig :=
  readValidated ofJson? validate text

def set (config : SparseConfig) : SparseSetting → SparseConfig
  | .model setting => { config with model := config.model.set setting }
  | .vocabularySize size => { config with vocabularySize := size }
  | .layout layout => { config with layout }
  | .threshold threshold => { config with threshold }
  | .topK count => { config with topK := count }
  | .logActivation enabled => { config with logActivation := enabled }
  | .returnLabels enabled => { config with returnLabels := enabled }
  | .stride stride => { config with stride }
  | .preProcessor preProcessor => { config with preProcessor := some preProcessor }

/-- Equal settings apart from the pre-processor, a function that only its holder
can tell from another; thresholds are compared as numbers. -/
def sameAs (a b : SparseConfig) : Bool :=
  a.model == b.model && a.vocabularySize == b.vocabularySize && a.layout == b.layout &&
    a.threshold == b.threshold && a.topK == b.topK && a.logActivation == b.logActivation &&
    a.returnLabels == b.returnLabels && a.stride == b.stride

/-- The default has no pre-processor. -/
def isDefault (config : SparseConfig) : Bool :=
  config.preProcessor.isNone && config.sameAs {}

end SparseConfig

end TextVectors

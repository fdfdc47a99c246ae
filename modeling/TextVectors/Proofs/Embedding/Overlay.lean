import TextVectors.Embedding.Config
import TextVectors.Proofs.Json.Excerpt
import TextVectors.Proofs.Json.RoundTrip

namespace TextVectors

/-! Configurations as they are written and read.

A configuration is read from a part of what was written for another one.  What is left out has
its default, also inside of the session options.
-/

open Json Inference

namespace Inference.SessionOptions

def members (options : SessionOptions) : List (String × Json) :=
  [("optimization_level", .text options.optimizationLevel.name),
   ("intra_op_threads", .natural options.intraOpThreads),
   ("inter_op_threads", .natural options.interOpThreads)]

/-- The options that are given, and the defaults of the others. -/
def overlay (options : SessionOptions) (given : List String) : SessionOptions :=
  let default : SessionOptions := {}
  { optimizationLevel :=
      pick given "optimization_level" options.optimizationLevel default.optimizationLevel
    intraOpThreads := pick given "intra_op_threads" options.intraOpThreads default.intraOpThreads
    interOpThreads := pick given "inter_op_threads" options.interOpThreads default.interOpThreads }

structure InRange (options : SessionOptions) : Prop where
  intraOpThreads : options.intraOpThreads < threadLimit
  interOpThreads : options.interOpThreads < threadLimit

theorem ofJson?_excerpt {options : SessionOptions} {inner : List (String × Json)}
    (range : options.InRange) (excerpt : Excerpt options.members inner) :
    ofJson? (record inner) = some (options.overlay (inner.map Prod.fst)) := by
  obtain ⟨fields, found, shows⟩ := excerpt.fields? (by simp [members])
  have named : options.members.map Prod.fst = fieldNames := rfl
  have level : OptimizationLevel.ofJson? (.text options.optimizationLevel.name) =
      some options.optimizationLevel := OptimizationLevel.ofName?_name _
  have readLevel := shows.withDefault level "optimization_level" (by simp [members]) .all
  have readIntra := shows.withDefault (natural?_natural range.intraOpThreads)
    "intra_op_threads" (by simp [members]) 0
  have readInter := shows.withDefault (natural?_natural range.interOpThreads)
    "inter_op_threads" (by simp [members]) 0
  rw [named] at found
  simp only [ofJson?, found, readLevel, readIntra, readInter, bind, Option.bind]
  rfl

theorem overlay_all (options : SessionOptions) :
    options.overlay (options.members.map Prod.fst) = options := by
  simp [overlay, pick, members]

theorem toJson_proper (options : SessionOptions) : options.toJson.Proper := by
  refine record_proper fun member listed => ?_
  simp only [List.mem_cons, List.not_mem_nil, or_false] at listed
  rcases listed with rfl | rfl | rfl
  · exact .string _
  · exact .number (natural_proper _)
  · exact .number (natural_proper _)

end Inference.SessionOptions

namespace ModelConfig

/-- The settings that are given, and those of another configuration for the others. -/
def overlay (config default : ModelConfig) (given inner : List String) : ModelConfig where
  sequenceLength := pick given "sequence_length" config.sequenceLength default.sequenceLength
  maxCachedSessions :=
    pick given "max_cached_batch_sessions" config.maxCachedSessions default.maxCachedSessions
  inputIdsName := pick given "input_ids_name" config.inputIdsName default.inputIdsName
  attentionMaskName :=
    pick given "attention_mask_name" config.attentionMaskName default.attentionMaskName
  tokenTypeIdsName :=
    pick given "token_type_ids_name" config.tokenTypeIdsName default.tokenTypeIdsName
  outputName := pick given "output_name" config.outputName default.outputName
  session := pick given "session" (config.session.overlay inner) default.session

structure InRange (config : ModelConfig) : Prop where
  sequenceLength : config.sequenceLength < wordLimit
  maxCachedSessions : config.maxCachedSessions < wordLimit
  session : config.session.InRange

variable {config : ModelConfig} {fields : Fields} {whole inner : List (String × Json)}
variable {given : List String}

theorem ofFields?_shown (range : config.InRange) (shows : fields.Shows whole given)
    (part : ∀ member ∈ config.members, member ∈ whole)
    (session : ("session", record inner) ∈ whole) (excerpt : Excerpt config.session.members inner)
    (default : ModelConfig) :
    ofFields? fields default = some (config.overlay default given (inner.map Prod.fst)) := by
  have readLength := shows.withDefault (natural?_natural range.sequenceLength)
    "sequence_length" (part _ (by simp [members])) default.sequenceLength
  have readLimit := shows.withDefault (natural?_natural range.maxCachedSessions)
    "max_cached_batch_sessions" (part _ (by simp [members])) default.maxCachedSessions
  have text (name : String) : text? (.text name) = some name := rfl
  have readIds := shows.withDefault (text config.inputIdsName)
    "input_ids_name" (part _ (by simp [members])) default.inputIdsName
  have readMask := shows.withDefault (text config.attentionMaskName)
    "attention_mask_name" (part _ (by simp [members])) default.attentionMaskName
  have readTypes := shows.withDefault (text config.tokenTypeIdsName)
    "token_type_ids_name" (part _ (by simp [members])) default.tokenTypeIdsName
  have readOutput := shows.withDefault (text config.outputName)
    "output_name" (part _ (by simp [members])) default.outputName
  have readSession := shows.withDefault (SessionOptions.ofJson?_excerpt range.session excerpt)
    "session" session default.session
  simp only [ofFields?, size?, readLength, readLimit, readIds, readMask, readTypes, readOutput,
    readSession, bind, Option.bind]
  rfl

theorem members_proper (config : ModelConfig) : ∀ member ∈ config.members, member.2.Proper := by
  intro member listed
  simp only [members, List.mem_cons, List.not_mem_nil, or_false] at listed
  rcases listed with rfl | rfl | rfl | rfl | rfl | rfl
  · exact .number (natural_proper _)
  · exact .number (natural_proper _)
  all_goals exact .string _

end ModelConfig

section Reading

variable {C : Type} {ofJson? : Json → Option C} {config : C} {value : Json}

theorem readValidated_eq {validate : C → Except ConfigFault Unit} {text : String}
    (read : read? text = some value) (found : ofJson? value = some config) :
    readValidated ofJson? validate text = validatedBy validate config := by
  rw [readValidated, read, Option.bind_some, found]

theorem readValidated_compact {validate : C → Except ConfigFault Unit} (proper : value.Proper)
    (found : ofJson? value = some config) :
    readValidated ofJson? validate (compact value) = validatedBy validate config :=
  readValidated_eq (read?_compact proper) found

end Reading

namespace DenseConfig

/-- The settings that are given, and the defaults of the others. -/
def overlay (config : DenseConfig) (given inner : List String) : DenseConfig :=
  let default : DenseConfig := {}
  { model := config.model.overlay default.model given inner
    embeddingDimension :=
      pick given "embedding_dimension" config.embeddingDimension default.embeddingDimension
    pooling := pick given "pooling" config.pooling default.pooling
    l2Normalize := pick given "l2_normalize" config.l2Normalize default.l2Normalize }

structure InRange (config : DenseConfig) : Prop where
  model : config.model.InRange
  embeddingDimension : config.embeddingDimension < wordLimit

variable {config : DenseConfig} {inner members : List (String × Json)}

theorem ofJson?_excerpt (range : config.InRange) (part : Excerpt config.model.session.members inner)
    (excerpt : Excerpt (config.membersWith (record inner)) members) :
    ofJson? (record members) =
      some (config.overlay (members.map Prod.fst) (inner.map Prod.fst)) := by
  obtain ⟨fields, found, shows⟩ := excerpt.fields? (by simp [membersWith, ModelConfig.members])
  have named : (config.membersWith (record inner)).map Prod.fst = fieldNames := rfl
  have readModel := ModelConfig.ofFields?_shown range.model shows
    (fun _ listed => List.mem_append_left _ listed) (by simp [membersWith]) part
    ({} : DenseConfig).model
  have readDimension := shows.withDefault (natural?_natural range.embeddingDimension)
    "embedding_dimension" (by simp [membersWith]) 384
  have pooling : Pooling.ofJson? (.text config.pooling.name) = some config.pooling := by
    cases config.pooling <;> rfl
  have readPooling := shows.withDefault pooling "pooling" (by simp [membersWith]) .mean
  have flag : bool? (.bool config.l2Normalize) = some config.l2Normalize := rfl
  have readFlag := shows.withDefault flag "l2_normalize" (by simp [membersWith]) true
  rw [named] at found
  simp only [ofJson?, found, readModel, ModelConfig.size?, readDimension, readPooling, readFlag,
    bind, Option.bind]
  rfl

theorem overlay_all (config : DenseConfig) :
    config.overlay (fieldNames) (config.model.session.members.map Prod.fst) = config := by
  simp [overlay, ModelConfig.overlay, pick, fieldNames, ModelConfig.fieldNames,
    SessionOptions.overlay_all]

theorem toJson_proper (config : DenseConfig) : config.toJson.Proper := by
  refine record_proper fun member listed => ?_
  rcases List.mem_append.mp listed with common | own
  · exact config.model.members_proper member common
  · simp only [List.mem_cons, List.not_mem_nil, or_false] at own
    rcases own with rfl | rfl | rfl | rfl
    · exact .number (natural_proper _)
    · exact .string _
    · exact .bool _
    · exact config.model.session.toJson_proper

/-- What is written for a valid configuration reads back. -/
theorem ofText_compact (range : config.InRange) (valid : config.validate = .ok ()) :
    ofText (compact config.toJson) = .ok config := by
  have found := ofJson?_excerpt range (.refl _)
    (.refl (config.membersWith config.model.session.toJson))
  have whole := config.overlay_all
  have same : (config.membersWith config.model.session.toJson).map Prod.fst = fieldNames := rfl
  rw [same, whole] at found
  rw [ofText, readValidated_compact config.toJson_proper found, validatedBy, valid]

end DenseConfig

namespace SparseConfig

/-- The settings that are given, and the defaults of the others. -/
def overlay (config : SparseConfig) (given inner : List String) : SparseConfig :=
  let default : SparseConfig := {}
  { model := config.model.overlay default.model given inner
    vocabularySize := pick given "vocab_size" config.vocabularySize default.vocabularySize
    layout := pick given "output_layout" config.layout default.layout
    threshold := pick given "prune_threshold" config.threshold default.threshold
    topK := pick given "top_k" config.topK default.topK
    logActivation := pick given "log1p_relu" config.logActivation default.logActivation
    returnLabels := pick given "return_labels" config.returnLabels default.returnLabels
    stride := pick given "sliding_window_stride" config.stride default.stride }

/-- What can be written of a configuration.  A finite threshold must read back as itself. -/
structure Writable (config : SparseConfig) : Prop where
  model : config.model.InRange
  vocabularySize : config.vocabularySize < wordLimit
  topK : config.topK < wordLimit
  stride : config.stride < wordLimit
  finite : (config.threshold.isNaN || config.threshold.isInf) = false
  rereads : (JsonNumber.ofBinary32 config.threshold).binary32? = some config.threshold
  plain : config.preProcessor = none

variable {config : SparseConfig} {inner members : List (String × Json)}

theorem binary32?_threshold (writable : config.Writable) :
    binary32? (.ofBinary32 config.threshold) = some config.threshold := by
  rw [ofBinary32, writable.finite]
  exact writable.rereads

theorem ofJson?_excerpt (writable : config.Writable)
    (part : Excerpt config.model.session.members inner)
    (excerpt : Excerpt (config.membersWith (record inner)) members) :
    ofJson? (record members) =
      some (config.overlay (members.map Prod.fst) (inner.map Prod.fst)) := by
  obtain ⟨fields, found, shows⟩ := excerpt.fields? (by simp [membersWith, ModelConfig.members])
  have named : (config.membersWith (record inner)).map Prod.fst = fieldNames := rfl
  have readModel := ModelConfig.ofFields?_shown writable.model shows
    (fun _ listed => List.mem_append_left _ listed) (by simp [membersWith]) part
    ({} : SparseConfig).model
  have readVocabulary := shows.withDefault (natural?_natural writable.vocabularySize)
    "vocab_size" (by simp [membersWith]) 0
  have layout : OutputLayout.ofJson? (.text config.layout.name) = some config.layout := by
    cases config.layout <;> rfl
  have readLayout := shows.withDefault layout
    "output_layout" (by simp [membersWith]) .tokenLogits
  have readThreshold := shows.withDefault (binary32?_threshold writable)
    "prune_threshold" (by simp [membersWith]) Binary32.zero
  have readTop := shows.withDefault (natural?_natural writable.topK)
    "top_k" (by simp [membersWith]) 0
  have flag (value : Bool) : bool? (.bool value) = some value := rfl
  have readLog := shows.withDefault (flag config.logActivation)
    "log1p_relu" (by simp [membersWith]) true
  have readLabels := shows.withDefault (flag config.returnLabels)
    "return_labels" (by simp [membersWith]) false
  have readStride := shows.withDefault (natural?_natural writable.stride)
    "sliding_window_stride" (by simp [membersWith]) 0
  rw [named] at found
  simp only [ofJson?, found, readModel, ModelConfig.size?, readVocabulary, readLayout,
    readThreshold, readTop, readLog, readLabels, readStride, bind, Option.bind]
  rfl

theorem overlay_all (plain : config.preProcessor = none) :
    config.overlay (fieldNames) (config.model.session.members.map Prod.fst) = config := by
  simp [overlay, ModelConfig.overlay, pick, fieldNames, ModelConfig.fieldNames,
    SessionOptions.overlay_all, ← plain]

theorem toJson_proper (writable : config.Writable) : config.toJson.Proper := by
  refine record_proper fun member listed => ?_
  rcases List.mem_append.mp listed with common | own
  · exact config.model.members_proper member common
  · simp only [List.mem_cons, List.not_mem_nil, or_false] at own
    rcases own with rfl | rfl | rfl | rfl | rfl | rfl | rfl | rfl
    · exact .number (natural_proper _)
    · exact .string _
    · rw [ofBinary32, writable.finite]
      exact .number (JsonNumber.ofBinary32_proper _)
    · exact .number (natural_proper _)
    · exact .bool _
    · exact .bool _
    · exact .number (natural_proper _)
    · exact config.model.session.toJson_proper

/-- What is written for a valid configuration reads back. -/
theorem ofText_compact (writable : config.Writable) (valid : config.validate = .ok ()) :
    ofText (compact config.toJson) = .ok config := by
  have found := ofJson?_excerpt writable (.refl _)
    (.refl (config.membersWith config.model.session.toJson))
  have whole := config.overlay_all writable.plain
  have same : (config.membersWith config.model.session.toJson).map Prod.fst = fieldNames := rfl
  rw [same, whole] at found
  rw [ofText, readValidated_compact (toJson_proper writable) found, validatedBy, valid]

end SparseConfig

/-- A configuration that is read from any part of what was written for another one, in any order
and with members of other names in between, has the settings that are given and the defaults of
all others, if it is valid; and what is wrong with it is said otherwise.  What was written for a
valid configuration reads back as that configuration. -/
theorem configuration_overlays_defaults :
    (∀ (config : DenseConfig) (members inner : List (String × Json)), config.InRange →
      Excerpt (config.membersWith (record inner)) members →
      Excerpt config.model.session.members inner →
        let overlaid := config.overlay (members.map Prod.fst) (inner.map Prod.fst)
        (∀ text, read? text = some (record members) →
          DenseConfig.ofText text = overlaid.validated) ∧
        ((∀ member ∈ members, member.2.Proper) →
          DenseConfig.ofText (compact (record members)) = overlaid.validated)) ∧
    (∀ config : DenseConfig, config.InRange → config.validate = .ok () →
      DenseConfig.ofText (compact config.toJson) = .ok config) ∧
    (∀ (config : SparseConfig) (members inner : List (String × Json)), config.Writable →
      Excerpt (config.membersWith (record inner)) members →
      Excerpt config.model.session.members inner →
        let overlaid := config.overlay (members.map Prod.fst) (inner.map Prod.fst)
        (∀ text, read? text = some (record members) →
          SparseConfig.ofText text = overlaid.validated) ∧
        ((∀ member ∈ members, member.2.Proper) →
          SparseConfig.ofText (compact (record members)) = overlaid.validated)) ∧
    (∀ config : SparseConfig, config.Writable → config.validate = .ok () →
      SparseConfig.ofText (compact config.toJson) = .ok config) := by
  refine ⟨?_, ?_, ?_, ?_⟩
  · intro config members inner range excerpt part overlaid
    have found := DenseConfig.ofJson?_excerpt range part excerpt
    constructor
    · intro text read
      exact readValidated_eq read found
    · intro proper
      exact readValidated_compact (record_proper proper) found
  · intro config range valid
    exact DenseConfig.ofText_compact range valid
  · intro config members inner writable excerpt part overlaid
    have found := SparseConfig.ofJson?_excerpt writable part excerpt
    constructor
    · intro text read
      exact readValidated_eq read found
    · intro proper
      exact readValidated_compact (record_proper proper) found
  · intro config writable valid
    exact SparseConfig.ofText_compact writable valid

section Trial

def shortRows : DenseConfig :=
  { model := { ({} : DenseConfig).model with
      sequenceLength := 128
      outputName := "d\"é\\\n😀"
      session := ⟨.basic, 4, 2⟩ }
    pooling := .cls }

def halfThreshold (stride : Nat) : SparseConfig :=
  { model := { ({} : SparseConfig).model with session := ⟨.disable, 4, 2⟩ }
    threshold := Float32.ofBits 0x3f000000
    stride }

/-- One of the session options, beside a member of another name. -/
def innerPart : List (String × Json) :=
  [("affinity", .array [.number ⟨true, digitsOf 1, digitsOf 5, some (false, digitsOf 9)⟩,
      .array []]),
   ("inter_op_threads", .natural 2)]

def densePart : List (String × Json) :=
  [("session", record innerPart), ("output_name", .text "d\"é\\\n😀"),
   ("", .object [(none, .null)]), ("sequence_length", .natural 128)]

def sparsePart : List (String × Json) :=
  [("sliding_window_stride", .natural 300),
   ("prune_threshold", .ofBinary32 (Float32.ofBits 0x3f000000))]

theorem innerPart_excerpt {options : SessionOptions} (same : options.interOpThreads = 2) :
    Excerpt options.members innerPart := by
  have known : (innerPart.filter fun member =>
      (options.members.map Prod.fst).contains member.1) = [("inter_op_threads", .natural 2)] := rfl
  unfold Excerpt
  rw [known]
  exact List.subperm_of_subset (by simp) (by simp [SessionOptions.members, same])

theorem densePart_excerpt : Excerpt (shortRows.membersWith (record innerPart)) densePart := by
  have known : (densePart.filter fun member =>
      ((shortRows.membersWith (record innerPart)).map Prod.fst).contains member.1) =
        [("session", record innerPart), ("output_name", .text "d\"é\\\n😀"),
         ("sequence_length", .natural 128)] := rfl
  unfold Excerpt
  rw [known]
  exact List.subperm_of_subset (by simp)
    (by simp [DenseConfig.membersWith, ModelConfig.members, shortRows])

theorem sparsePart_excerpt :
    Excerpt ((halfThreshold 300).membersWith (record innerPart)) sparsePart := by
  have known : (sparsePart.filter fun member =>
      (((halfThreshold 300).membersWith (record innerPart)).map Prod.fst).contains member.1) =
        sparsePart := rfl
  unfold Excerpt
  rw [known]
  exact List.subperm_of_subset (by simp [sparsePart])
    (by simp [SparseConfig.membersWith, sparsePart, halfThreshold])

theorem shortRows_inRange : shortRows.InRange :=
  ⟨⟨by decide, by decide, by decide, by decide⟩, by decide⟩

theorem halfThreshold_writable {stride : Nat} (small : stride < wordLimit) :
    (halfThreshold stride).Writable where
  model := ⟨show 256 < wordLimit by decide, show 8 < wordLimit by decide,
    show 4 < threadLimit by decide, show 2 < threadLimit by decide⟩
  vocabularySize := show 0 < wordLimit by decide
  topK := show 0 < wordLimit by decide
  stride := small
  finite := show ((Float32.ofBits 0x3f000000).isNaN || (Float32.ofBits 0x3f000000).isInf) = false
    by decide
  rereads := show (JsonNumber.ofBinary32 (Float32.ofBits 0x3f000000)).binary32? =
    some (Float32.ofBits 0x3f000000) by decide +kernel
  plain := rfl

theorem densePart_proper : ∀ member ∈ densePart, member.2.Proper := by
  have number : JsonNumber.Proper ⟨true, digitsOf 1, digitsOf 5, some (false, digitsOf 9)⟩ :=
    ⟨by decide, by decide, by simp [digitsOf_ne_nil]⟩
  simp only [densePart, List.mem_cons, List.not_mem_nil, or_false, forall_eq_or_imp, forall_eq]
  refine ⟨record_proper ?_, .string _, .object (by simp [Proper.null]),
    .number (natural_proper 128)⟩
  simp only [innerPart, List.mem_cons, List.not_mem_nil, or_false, forall_eq_or_imp, forall_eq]
  refine ⟨.array ?_, .number (natural_proper 2)⟩
  simp only [List.mem_cons, List.not_mem_nil, or_false, forall_eq_or_imp, forall_eq]
  exact ⟨.number number, .array (by simp)⟩

theorem sparsePart_proper : ∀ member ∈ sparsePart, member.2.Proper := by
  simp only [sparsePart, List.mem_cons, List.not_mem_nil, or_false, forall_eq_or_imp, forall_eq]
  refine ⟨.number (natural_proper 300), ?_⟩
  rw [ofBinary32, if_neg (by decide +kernel)]
  exact .number (JsonNumber.ofBinary32_proper _)

/-- Parts with other members in between, one of which makes the whole invalid, and whole
configurations. -/
theorem parts_read_over_defaults :
    DenseConfig.ofText (compact (record densePart)) =
      .ok { model := { ({} : DenseConfig).model with
              sequenceLength := 128
              outputName := "d\"é\\\n😀"
              session := { interOpThreads := 2 } } } ∧
    DenseConfig.ofText (compact shortRows.toJson) = .ok shortRows ∧
    SparseConfig.ofText (compact (record sparsePart)) = .error (.config (.strideTooLong 256 300)) ∧
    SparseConfig.ofText (compact (halfThreshold 9).toJson) = .ok (halfThreshold 9) := by
  obtain ⟨densePartly, denseWhole, sparsePartly, sparseWhole⟩ := configuration_overlays_defaults
  have dense := (densePartly shortRows densePart innerPart shortRows_inRange densePart_excerpt
    (innerPart_excerpt rfl)).2 densePart_proper
  have sparse := (sparsePartly (halfThreshold 300) sparsePart innerPart
    (halfThreshold_writable (by decide)) sparsePart_excerpt (innerPart_excerpt rfl)).2
      sparsePart_proper
  refine ⟨dense.trans ?_, denseWhole shortRows shortRows_inRange rfl, sparse.trans ?_,
    sparseWhole (halfThreshold 9) (halfThreshold_writable (by decide)) ?_⟩
  · rfl
  · rfl
  · rfl

end Trial

end TextVectors

import TextVectors.Proofs.Embedding.Dense
import TextVectors.Proofs.Embedding.Sparse
import TextVectors.Scripted.Host
import TextVectors.Scripted.Runtime
import TextVectors.Scripted.Tokenizer

namespace TextVectors

/-! Reused sessions cannot be told from new ones.

Whatever was embedded before and however it ended, sizes are all that is left of it in the
buffers that are cached.
-/

open Inference

/-- From the moment on in which the library obliges, an embedder answers like one that is opened
then, whatever it went through before, and the runs are handed the same buffers in the same
order. -/
theorem reuse_invisible (modelPath : String) (tokenizer : Tokenizer)
    (compute : NamedBuffers → Nat → Float32) (host : Host) (environment : Environment)
    (documents : List String) (engine : Engine) (obliging : engine.Obliging modelPath compute) :
    (∀ (config : DenseConfig) (embedder fresh : DenseEmbedder) (opened : Engine),
      DenseEmbedder.InUse modelPath tokenizer config embedder engine →
      DenseEmbedder.withTokenizer host modelPath tokenizer config engine = .ok fresh opened →
        let reused := embedder.embedDocuments host environment documents engine
        let anew := fresh.embedDocuments host environment documents opened
        reused.1.1 = anew.1.1 ∧ reused.2.handedSince engine = anew.2.handedSince opened) ∧
    (∀ (config : SparseConfig) (embedder fresh : SparseEmbedder) (opened : Engine),
      SparseEmbedder.InUse modelPath tokenizer config embedder engine →
      SparseEmbedder.withTokenizer host modelPath tokenizer config engine = .ok fresh opened →
        let reused := embedder.embedDocuments host environment documents engine
        let anew := fresh.embedDocuments host environment documents opened
        reused.1.1 = anew.1.1 ∧ reused.2.handedSince engine = anew.2.handedSince opened) := by
  constructor
  · intro config embedder fresh opened inUse opens
    exact EmbedderKind.embedDocuments_alike inUse opens DenseEmbedder.work_shows obliging
      environment documents
  · intro config embedder fresh opened inUse opens
    exact EmbedderKind.embedDocuments_alike inUse opens SparseEmbedder.work_shows obliging
      environment documents

/-- Beyond its entries, a script only has successes. -/
theorem Scripted.Runtime.answer_past {script : Scripted.Runtime} {function : NativeFunction}
    {number : Nat}
    (pastFailures : ∀ entry ∈ script.failures, entry.function = function → entry.ordinal < number)
    (pastOmissions : ∀ entry ∈ script.omissions,
      entry.function = function → entry.ordinal < number) :
    script.answer function number = .success := by
  have noFailure : script.failures.find? (fun entry =>
      decide (entry.function = function ∧ entry.ordinal = number)) = none := by
    rw [List.find?_eq_none]
    intro entry member found
    obtain ⟨called, reached⟩ := of_decide_eq_true found
    exact absurd reached (Nat.ne_of_lt (pastFailures entry member called))
  have noOmission : ¬ script.omissions.contains ⟨function, number⟩ = true := by
    rw [List.contains_iff_mem]
    exact fun member => Nat.lt_irrefl number (pastOmissions _ member rfl)
  simp only [answer, noFailure, if_neg noOmission]

/-- A scripted library obliges once every failure of its script is past, if all runs write the
same. -/
theorem Scripted.Runtime.obliging {script : Scripted.Runtime} {engine : Engine}
    {pattern : Array Float32} (behaves : engine.behaviour = script.behaviour)
    (pastFailures : ∀ entry ∈ script.failures,
      entry.ordinal ≤ engine.history.callCount entry.function)
    (pastOmissions : ∀ entry ∈ script.omissions,
      entry.ordinal ≤ engine.history.callCount entry.function)
    (patterns : script.patterns = [pattern]) (some : 0 < pattern.size) (modelPath : String) :
    engine.Obliging modelPath fun _ cell => pattern.getD (cell % pattern.size) Binary32.zero := by
  have succeeds (function : NativeFunction) (number : Nat)
      (later : engine.history.callCount function < number) :
      script.answer function number = .success := by
    apply answer_past
    · rintro entry member rfl
      exact Nat.lt_of_le_of_lt (pastFailures entry member) later
    · rintro entry member rfl
      exact Nat.lt_of_le_of_lt (pastOmissions entry member) later
  constructor
  · rw [behaves]
    exact succeeds
  · intro number session inputs outputs cell old later _
    have inside : cell % pattern.size < pattern.size := Nat.mod_lt cell some
    rw [behaves]
    simp only [behaviour, fill, succeeds .run number later, patternOf?, patterns,
      List.length_singleton, Nat.mod_one, List.getElem?_cons_zero, Array.getD, dif_pos inside]

section Trial

/-- The first run fails, and all others write ones. -/
def trialEngine : Engine where
  behaviour := ({
    failures := [⟨.run, 1, 1, none⟩]
    patterns := [#[Float32.ofBits 0x3f800000]] } : Scripted.Runtime).behaviour

def trialHost : Host :=
  Scripted.host none true

def trialEnvironment : Environment where
  count := 1
  runtime := some ⟨⟨.environment, 1⟩, "1.21.0", "@/libonnxruntime.so"⟩

def trialTokenizer : Tokenizer :=
  ({ vocabularySize := some 4 } : Scripted.Tokenizer).tokenizer

def trialModel : ModelConfig where
  sequenceLength := 4
  inputIdsName := "ids"
  attentionMaskName := "mask"
  tokenTypeIdsName := ""
  outputName := "states"

def trialDense : DenseConfig where
  model := trialModel
  embeddingDimension := 2
  pooling := .cls
  l2Normalize := false

def trialSparse : SparseConfig where
  model := trialModel
  logActivation := false

def freshDense : DenseEmbedder :=
  .configured "@/model.onnx" trialTokenizer trialDense ⟨8, [], []⟩

def freshSparse : SparseEmbedder :=
  .configured "@/model.onnx" trialTokenizer trialSparse 4 ⟨8, [], []⟩

def triedDense : (Except EmbeddingError (List (List Float32)) × DenseEmbedder) × Engine :=
  freshDense.embedDocuments trialHost trialEnvironment ["one two three"] trialEngine

def triedSparse : (Except EmbeddingError (List SparseVector) × SparseEmbedder) × Engine :=
  freshSparse.embedDocuments trialHost trialEnvironment ["one two three"] trialEngine

/-- A row of token ids with its mask, as a run is handed them. -/
def handedRow (ids mask : List Int) : NamedBuffers :=
  [("ids", ⟨.int64, ids⟩), ("mask", ⟨.int64, mask⟩)]

theorem trial_obliging (engine : Engine) (behaves : engine.behaviour = trialEngine.behaviour)
    (past : 1 ≤ engine.history.callCount .run) :
    engine.Obliging "@/model.onnx" fun _ cell =>
      #[Float32.ofBits 0x3f800000].getD (cell % #[Float32.ofBits 0x3f800000].size) Binary32.zero :=
  Scripted.Runtime.obliging behaves (by simpa using past) (by simp) rfl (by decide) _

/-- A short text after a longer one whose run failed, for either kind of embedder. -/
theorem short_text_after_failed_run :
    (triedDense.1.1.toOption = none ∧
      triedDense.2.handedSince trialEngine = [handedRow [3, 3, 5, 0] [1, 1, 1, 0]] ∧
      ∃ opened, DenseEmbedder.withTokenizer trialHost "@/model.onnx" trialTokenizer trialDense
          triedDense.2 = .ok freshDense opened ∧
        let reused := triedDense.1.2.embedDocuments trialHost trialEnvironment ["a"] triedDense.2
        let anew := freshDense.embedDocuments trialHost trialEnvironment ["a"] opened
        reused.1.1 = anew.1.1 ∧
          reused.2.handedSince triedDense.2 = [handedRow [1, 0, 0, 0] [1, 0, 0, 0]]) ∧
    (triedSparse.1.1.toOption = none ∧
      triedSparse.2.handedSince trialEngine = [handedRow [3, 3, 5, 0] [1, 1, 1, 0]] ∧
      ∃ opened, SparseEmbedder.withTokenizer trialHost "@/model.onnx" trialTokenizer trialSparse
          triedSparse.2 = .ok freshSparse opened ∧
        let reused := triedSparse.1.2.embedDocuments trialHost trialEnvironment ["a"] triedSparse.2
        let anew := freshSparse.embedDocuments trialHost trialEnvironment ["a"] opened
        reused.1.1 = anew.1.1 ∧
          reused.2.handedSince triedSparse.2 = [handedRow [1, 0, 0, 0] [1, 0, 0, 0]]) := by
  constructor
  · have obliging := trial_obliging triedDense.2 rfl (by decide +kernel)
    obtain ⟨after, opened, nothing⟩ : ∃ after, DenseEmbedder.withTokenizer trialHost "@/model.onnx"
        trialTokenizer trialDense trialEngine = .ok freshDense after ∧ after.history = [] :=
      ⟨_, rfl, rfl⟩
    have start : DenseEmbedder.InUse "@/model.onnx" trialTokenizer trialDense freshDense
        trialEngine :=
      .elsewhere (.opened opened)
        (show trialEngine.history = [] ++ after.history by rw [nothing]; rfl)
    have alike := (reuse_invisible "@/model.onnx" trialTokenizer _ trialHost trialEnvironment ["a"]
      triedDense.2 obliging).1 trialDense triedDense.1.2 freshDense _
        (start.embedded trialHost trialEnvironment ["one two three"]) rfl
    exact ⟨rfl, rfl, _, rfl, alike.1, rfl⟩
  · have obliging := trial_obliging triedSparse.2 rfl (by decide +kernel)
    obtain ⟨after, opened, nothing⟩ : ∃ after, SparseEmbedder.withTokenizer trialHost "@/model.onnx"
        trialTokenizer trialSparse trialEngine = .ok freshSparse after ∧ after.history = [] :=
      ⟨_, rfl, rfl⟩
    have start : SparseEmbedder.InUse "@/model.onnx" trialTokenizer trialSparse freshSparse
        trialEngine :=
      .elsewhere (.opened opened)
        (show trialEngine.history = [] ++ after.history by rw [nothing]; rfl)
    have alike := (reuse_invisible "@/model.onnx" trialTokenizer _ trialHost trialEnvironment ["a"]
      triedSparse.2 obliging).2 trialSparse triedSparse.1.2 freshSparse _
        (start.embedded trialHost trialEnvironment ["one two three"]) rfl
    exact ⟨rfl, rfl, _, rfl, alike.1, rfl⟩

end Trial

end TextVectors

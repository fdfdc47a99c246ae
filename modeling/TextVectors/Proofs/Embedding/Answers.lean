import TextVectors.Proofs.Embedding.Dense
import TextVectors.Proofs.Embedding.Rows
import TextVectors.Proofs.Embedding.Sparse

namespace TextVectors

/-! What running a batch shows, row by row. -/

open Inference

variable {α β : Type}

namespace Transcript

variable {first : Transcript α} {next : α → Transcript β} {handed after : List NamedBuffers}

theorem ok_of_bind {value : β} (succeeded : (first >>= next) handed = .ok value after) :
    ∃ between middle, first handed = .ok between middle ∧ next between middle = .ok value after := by
  change EStateM.bind first next handed = _ at succeeded
  unfold EStateM.bind at succeeded
  cases ended : first handed with
  | ok between middle =>
      rw [ended] at succeeded
      exact ⟨between, middle, rfl, succeeded⟩
  | error error middle =>
      rw [ended] at succeeded
      cases succeeded

theorem bind_ok {between : α} {middle : List NamedBuffers}
    (ended : first handed = .ok between middle) :
    (first >>= next) handed = next between middle := by
  change EStateM.bind first next handed = _
  rw [EStateM.bind, ended]

theorem error_bind {error : EmbeddingError} (ended : first handed = .error error after) :
    (first >>= next) handed = .error error after := by
  change EStateM.bind first next handed = _
  rw [EStateM.bind, ended]

theorem ofExcept_ok {result : Except EmbeddingError α} {value : α} (found : result = .ok value) :
    Transcript.ofExcept result handed = .ok value handed := by
  rw [found]
  rfl

theorem ofExcept_ok_bind (value : α) (next : α → Transcript β) :
    Transcript.ofExcept (.ok value) >>= next = next value := rfl

theorem ok_of_ofExcept {result : Except EmbeddingError α} {value : α}
    (succeeded : Transcript.ofExcept result handed = .ok value after) :
    result = .ok value ∧ after = handed := by
  cases result with
  | ok found =>
      cases succeeded
      exact ⟨rfl, rfl⟩
  | error error => cases succeeded

theorem ok_of_result {value : α} (succeeded : first.result = .ok value) :
    ∃ newest, first [] = .ok value newest := by
  unfold Transcript.result at succeeded
  cases ended : first [] with
  | ok found newest =>
      rw [ended] at succeeded
      cases succeeded
      exact ⟨newest, rfl⟩
  | error error newest =>
      rw [ended] at succeeded
      cases succeeded

end Transcript

namespace TokenBuffers

variable {buffers : TokenBuffers} {length count : Nat} {encodings : List Encoding}

theorem encodingsCheck_of_fill (filled : (buffers.fillEncodings length encodings).1 = .ok ()) :
    encodingsCheck length encodings buffers = .ok () := by
  cases passed : encodingsCheck length encodings buffers with
  | error error =>
      unfold encodingsCheck at passed
      rw [fillEncodings, passed] at filled
      cases filled
  | ok _ => rfl

theorem checkEncodings_ok (position : Nat) :
    checkEncodings position encodings = .ok () ↔ ∀ encoding ∈ encodings, encoding.check = .ok () := by
  induction encodings generalizing position with
  | nil => simp [checkEncodings]
  | cons encoding rest ih =>
      cases checked : encoding.check with
      | error fault => simp [checkEncodings, checked]
      | ok _ => simp [checkEncodings, checked, ih]

theorem check_blank (useTypes : Bool) (count : Nat) : (blank useTypes count).check count = .ok () := by
  cases useTypes <;> simp [check, blank]

theorem encodingsCheck_blank (useTypes : Bool)
    (counted : elementCount [encodings.length, length] = .ok count)
    (checked : ∀ encoding ∈ encodings, encoding.check = .ok ()) :
    encodingsCheck length encodings (blank useTypes count) = .ok () := by
  simp only [encodingsCheck, counted, Except.mapError, check_blank, bind, Except.bind]
  exact (checkEncodings_ok 0).mpr checked

theorem windowsCheck_blank (useTypes : Bool) {windows : List Window} (some : windows ≠ [])
    (counted : elementCount [windows.length, length] = .ok count) :
    windowsCheck length windows (blank useTypes count) = .ok () := by
  have full : ¬ windows.isEmpty = true := by simpa using some
  simp only [windowsCheck, if_neg full, counted, bind, Except.bind]
  exact check_blank useTypes count

end TokenBuffers

namespace BoundModel

variable {model : BoundModel} {batch tokens outputs : Nat}

/-- The cells of a token tensor are the rows of a batch. -/
theorem elementCount_of_sizes (sizes : model.sizes batch = .ok (tokens, outputs)) :
    elementCount [batch, model.binding.sequenceLength] = .ok tokens := by
  obtain ⟨shape, -, planned⟩ := ok_of_bind sizes
  obtain ⟨rows, few, planned⟩ := ok_of_bind planned
  obtain ⟨columns, short, planned⟩ := ok_of_bind planned
  obtain ⟨cells, counted, planned⟩ := ok_of_bind planned
  obtain ⟨others, -, planned⟩ := ok_of_bind planned
  obtain ⟨bound, -, planned⟩ := ok_of_bind planned
  cases planned
  have sized {size : Nat} {dim : Int}
      (fits : (dimension size).mapError EmbeddingError.invalidInput = .ok dim) : dim = size := by
    have found := ok_of_mapError fits
    unfold dimension at found
    split at found
    · exact (Except.ok.inj found).symm
    · cases found
  rw [sized few, sized short] at counted
  have product := ok_of_mapError counted
  have positive (size : Nat) : ¬ (size : Int) < 0 := by omega
  simp only [Shape.elementCount, Shape.countFrom, if_neg (positive _), Int.toNat_natCast] at product
  simp only [elementCount, elementCount.go]
  split at product
  · rename_i inside
    rw [if_pos inside]
    split at product
    · rename_i insideToo
      rw [if_pos insideToo]
      cases product
      rfl
    · cases product
  · cases product

/-- What shows of running a batch of some rows. -/
def ranRows (model : BoundModel) (rows : List Window) : Transcript (List Float32 × List Int) := do
  let (_, outputs) ← .ofExcept (model.opened rows.length)
  let buffers := TokenBuffers.ofRows model.binding.usesTokenTypes rows
  Transcript.hand (model.named buffers)
  return ((List.range outputs).map (model.compute (model.named buffers)), buffers.mask)

theorem ran_of_prepared {write : TokenBuffers → Except EmbeddingError Unit × TokenBuffers}
    {fillFailure : EmbeddingError → EmbeddingError} {rows : List Window}
    (fills : ∀ tokens outputs, model.opened rows.length = .ok (tokens, outputs) →
      write (.blank model.binding.usesTokenTypes tokens) =
        (.ok (), .ofRows model.binding.usesTokenTypes rows)) :
    model.ran rows.length write fillFailure = model.ranRows rows := by
  unfold ran ranRows prepared
  cases opened : model.opened rows.length with
  | error error => rfl
  | ok sizes =>
      obtain ⟨tokens, outputs⟩ := sizes
      simp only [bind, Except.bind, fills tokens outputs opened]
      rfl

theorem sizes_of_opened (opened : model.opened batch = .ok (tokens, outputs)) :
    0 < batch ∧ model.sizes batch = .ok (tokens, outputs) := by
  unfold BoundModel.opened at opened
  split at opened
  · cases opened
  · exact ⟨by omega, opened⟩

/-- The wording of a failure and what was handed over before do not show in a success. -/
theorem ran_reworded {write : TokenBuffers → Except EmbeddingError Unit × TokenBuffers}
    {wording : EmbeddingError → EmbeddingError} {handed after : List NamedBuffers}
    {output : List Float32 × List Int}
    (succeeded : model.ran batch write wording handed = .ok output after)
    (other : EmbeddingError → EmbeddingError) (before : List NamedBuffers) :
    ∃ later, model.ran batch write other before = .ok output later := by
  obtain ⟨prepared, middle, planned, succeeded⟩ := Transcript.ok_of_bind succeeded
  obtain ⟨planned, -⟩ := Transcript.ok_of_ofExcept planned
  obtain ⟨⟨tokens, outputs⟩, opened, planned⟩ := ok_of_bind planned
  obtain ⟨_, filled, planned⟩ := ok_of_bind planned
  cases planned
  cases succeeded
  have again : model.prepared batch write other =
      .ok ((write (.blank model.binding.usesTokenTypes tokens)).2, outputs) := by
    rw [BoundModel.prepared, opened]
    simp only [bind, Except.bind]
    rw [ok_of_mapError filled]
    rfl
  exact ⟨_, by rw [BoundModel.ran, Transcript.bind_ok (Transcript.ofExcept_ok again)]; rfl⟩

theorem ran_windows {windows : List Window} (fillFailure : EmbeddingError → EmbeddingError)
    (fits : ∀ window ∈ windows,
      window.Fits model.binding.sequenceLength model.binding.usesTokenTypes) :
    model.ran windows.length (writeWindows windows.length model.binding.sequenceLength windows)
        fillFailure =
      model.ranRows windows := by
  refine ran_of_prepared fun tokens outputs opened => ?_
  obtain ⟨positive, sizes⟩ := sizes_of_opened opened
  have passed := TokenBuffers.windowsCheck_blank model.binding.usesTokenTypes
    (List.ne_nil_of_length_pos positive) (elementCount_of_sizes sizes)
  rw [writeWindows, if_pos rfl, TokenBuffers.fillWindows_blank passed fits]
  rfl

theorem ran_encodings {encodings : List Encoding} (fillFailure : EmbeddingError → EmbeddingError)
    (checked : ∀ encoding ∈ encodings, encoding.check = .ok ()) :
    model.ran encodings.length
        (writeEncodings encodings.length model.binding.sequenceLength encodings) fillFailure =
      model.ranRows (encodings.map
        (Window.ofEncoding model.binding.sequenceLength model.binding.usesTokenTypes)) := by
  let rows := encodings.map
    (Window.ofEncoding model.binding.sequenceLength model.binding.usesTokenTypes)
  have count : encodings.length = rows.length := (List.length_map _).symm
  rw [count]
  refine ran_of_prepared fun tokens outputs opened => ?_
  rw [← count] at opened ⊢
  have counted := elementCount_of_sizes (sizes_of_opened opened).2
  have passed := TokenBuffers.encodingsCheck_blank model.binding.usesTokenTypes counted checked
  rw [writeEncodings, if_pos rfl, TokenBuffers.fillEncodings_blank passed]

theorem checked_of_ran {encodings : List Encoding} {fillFailure : EmbeddingError → EmbeddingError}
    {handed after : List NamedBuffers} {output : List Float32 × List Int}
    (succeeded : model.ran batch
      (writeEncodings batch model.binding.sequenceLength encodings) fillFailure handed =
        .ok output after) :
    encodings.length = batch ∧ ∀ encoding ∈ encodings, encoding.check = .ok () := by
  obtain ⟨prepared, middle, planned, -⟩ := Transcript.ok_of_bind succeeded
  obtain ⟨planned, -⟩ := Transcript.ok_of_ofExcept planned
  obtain ⟨sizes, opened, planned⟩ := ok_of_bind planned
  obtain ⟨_, filled, -⟩ := ok_of_bind planned
  have filled := ok_of_mapError filled
  unfold writeEncodings at filled
  split at filled
  · rename_i rows
    have passed := TokenBuffers.encodingsCheck_of_fill filled
    obtain ⟨total, -, passed⟩ := ok_of_bind passed
    obtain ⟨_, -, passed⟩ := ok_of_bind passed
    exact ⟨rows, (TokenBuffers.checkEncodings_ok 0).mp passed⟩
  · cases filled

end BoundModel

end TextVectors

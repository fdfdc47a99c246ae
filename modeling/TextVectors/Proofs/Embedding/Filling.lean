import TextVectors.Proofs.Embedding.Answers
import TextVectors.Proofs.Embedding.Cover
import TextVectors.Proofs.Embedding.Sizes

namespace TextVectors

/-! Buffers are filled alike from windows and from encodings.

Whatever buffers of the right sizes hold, the windows of an encoding leave in them what the rest of
the encoding from each window's start on leaves in them.
-/

namespace TokenBuffers

variable {buffers : TokenBuffers} {length count : Nat} {windows : List Window}
variable {encodings : List Encoding}

/-- What fills blank buffers fills any buffers of the same sizes. -/
theorem Overwrites.eq_of_blank {ε : Type} {fill : TokenBuffers → Except ε Unit × TokenBuffers}
    (overwrites : Overwrites fill) (sized : buffers.Sized count) {filled : TokenBuffers}
    (done : fill (blank buffers.types.isSome count) = (.ok (), filled)) :
    fill buffers = (.ok (), filled) := by
  rw [← clear_eq_blank sized] at done
  have succeeded : (fill buffers).1 = .ok () := by
    rw [overwrites.result, done]
  have written : (fill buffers).2 = filled := by
    rw [overwrites.written buffers succeeded, done]
  exact Prod.ext succeeded written

theorem elementCount_rows (some : 0 < count) (positive : 0 < length)
    (fits : count * length < wordLimit) : elementCount [count, length] = .ok (count * length) := by
  rw [Sparse.elementCount_eq]
  · simp
  · simp [some, positive]
  · simpa using fits

theorem fillWindows_eq (sized : buffers.Sized (windows.length * length)) (some : windows ≠ [])
    (positive : 0 < length) (small : windows.length * length < wordLimit)
    (fits : ∀ window ∈ windows, window.Fits length buffers.types.isSome) :
    buffers.fillWindows length windows = (.ok (), .ofRows buffers.types.isSome windows) := by
  have counted := elementCount_rows (List.length_pos_iff.mpr some) positive small
  exact (fillWindows_overwrites length windows).eq_of_blank sized
    (fillWindows_blank (windowsCheck_blank _ some counted) fits)

theorem fillEncodings_eq (sized : buffers.Sized (encodings.length * length)) (some : encodings ≠ [])
    (positive : 0 < length) (small : encodings.length * length < wordLimit)
    (checked : ∀ encoding ∈ encodings, encoding.check = .ok ()) :
    buffers.fillEncodings length encodings = (.ok (),
      .ofRows buffers.types.isSome
        (encodings.map (Window.ofEncoding length buffers.types.isSome))) := by
  have counted := elementCount_rows (List.length_pos_iff.mpr some) positive small
  exact (fillEncodings_overwrites length encodings).eq_of_blank sized
    (fillEncodings_blank (encodingsCheck_blank _ counted checked))

end TokenBuffers

theorem Encoding.check_drop {encoding : Encoding} (checked : encoding.check = .ok ())
    (count : Nat) : (encoding.drop count).check = .ok () := by
  rw [check_iff] at checked ⊢
  obtain ⟨mask, types⟩ := checked
  constructor
  · rcases mask with absent | whole
    · exact .inl (by simp [drop, absent])
    · exact .inr (by simp [drop, whole])
  · rcases types with absent | whole
    · exact .inl (by simp [drop, absent])
    · exact .inr (by simp [drop, whole])

namespace Window

variable {length stride : Nat} {encoding : Encoding}

theorem map_ofEncoding_drop (checked : encoding.check = .ok ()) (length : Nat) (useTypes : Bool)
    (starts : List Nat) :
    (starts.map encoding.drop).map (ofEncoding length useTypes) =
      starts.map ((Tokens.ofEncoding encoding).windowAt length useTypes) := by
  simp [windowAt_eq checked]

/-- The windows of an encoding fill buffers as the rests of the encoding do from which each of them
takes its tokens.  No buffer has more cells than a size can count. -/
theorem windows_fill_alike (checked : encoding.check = .ok ()) (positive : 0 < length)
    (strided : 0 < stride) (within : stride ≤ length) (useTypes : Bool) :
    ∃ windows, split encoding length stride useTypes = .ok windows ∧
      ∀ buffers : TokenBuffers, buffers.types.isSome = useTypes →
        buffers.Sized (windows.length * length) → buffers.ids.length < wordLimit →
        let starts := (List.range windows.length).map (· * stride)
        buffers.fillWindows length windows = (.ok (), .ofRows useTypes windows) ∧
        buffers.fillEncodings length (starts.map encoding.drop) =
          (.ok (), .ofRows useTypes windows) := by
  have cut := split_eq checked strided within useTypes
  refine ⟨_, cut, ?_⟩
  obtain ⟨some, fits⟩ := split_fits cut
  generalize counted : countOf encoding.ids.length length stride = count at *
  rintro buffers rfl sized small
  rw [sized.ids] at small
  dsimp only
  refine ⟨TokenBuffers.fillWindows_eq sized some positive small fits, ?_⟩
  rw [List.length_map, List.length_range] at sized small ⊢
  have someStarts : ((List.range count).map (· * stride)).map encoding.drop ≠ [] := by
    simpa using some
  have sizedToo : buffers.Sized
      ((((List.range count).map (· * stride)).map encoding.drop).length * length) := by
    simpa using sized
  rw [TokenBuffers.fillEncodings_eq sizedToo someStarts positive (by simpa using small)
    (by simp [Encoding.check_drop checked]), map_ofEncoding_drop checked, List.map_map]
  rfl

/-- Buffers that hold other rows. -/
def staleBuffers : TokenBuffers where
  ids := [1, 2, 3, 4, 5, 6, 7, 8]
  mask := [1, 1, 1, 1, 1, 1, 1, 1]
  types := some [2, 2, 2, 2, 2, 2, 2, 2]

theorem stale_buffers_filled :
    staleBuffers.fillWindows 4 unevenRows = (.ok (), .ofRows true unevenRows) ∧
      staleBuffers.fillEncodings 4 [unevenTokens, unevenTokens.drop 3] =
        (.ok (), .ofRows true unevenRows) := by
  have checked : unevenTokens.check = .ok () := rfl
  obtain ⟨windows, cut, filled⟩ :=
    windows_fill_alike checked (by decide : 0 < 4) (by decide : 0 < 3) (by decide) true
  rw [split_unevenTokens] at cut
  cases cut
  exact filled staleBuffers rfl ⟨rfl, rfl, by decide⟩ (by decide)

end Window

end TextVectors

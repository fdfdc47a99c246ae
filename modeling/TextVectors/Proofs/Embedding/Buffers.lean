import Mathlib.Algebra.BigOperators.Group.List.Basic
import TextVectors.Embedding.BatchSession
import TextVectors.Proofs.Execution

namespace TextVectors.TokenBuffers

/-! Filled buffers hold nothing of what was in them.

Filling clears all cells before the first row is written.  Its result, and on success every
cell, is therefore the same for all buffers of the same sizes; and the sizes stay, even where
filling stops halfway.
-/

variable {buffers : TokenBuffers} {length row count : Nat} {cells entries : List Int}
variable {window : Window} {windows : List Window} {encoding : Encoding}
variable {encodings : List Encoding}

theorem clear_clear (buffers : TokenBuffers) : buffers.clear.clear = buffers.clear := by
  cases buffers with
  | mk ids mask types => cases types <;> simp [clear, zeroed]

/-- All buffers have a number of cells. -/
structure Sized (buffers : TokenBuffers) (count : Nat) : Prop where
  ids : buffers.ids.length = count
  mask : buffers.mask.length = count
  types : ∀ types ∈ buffers.types, types.length = count

theorem sized_of_check (checked : buffers.check count = .ok ()) : buffers.Sized count := by
  unfold check at checked
  split at checked
  · cases checked
  · rename_i fits
    simp only [ne_eq, not_or, Decidable.not_not] at fits
    refine ⟨fits.1, fits.2, ?_⟩
    intro types member
    rw [Option.mem_def] at member
    simp only [member] at checked
    split at checked
    · cases checked
    · rename_i same
      exact Decidable.not_not.mp same

theorem check_clear (buffers : TokenBuffers) (count : Nat) :
    buffers.clear.check count = buffers.check count := by
  cases buffers with
  | mk ids mask types => cases types <;> simp [check, clear, zeroed]

/-- A row that fits is written over as many cells. -/
theorem length_writeRow (within : row * length + entries.length ≤ cells.length) :
    (writeRow cells length row entries).length = cells.length := by
  simp only [writeRow, List.length_append, List.length_take, List.length_drop]
  omega

theorem row_within (inside : row < count) (short : entries.length ≤ length)
    (whole : cells.length = count * length) : row * length + entries.length ≤ cells.length := by
  have rows : (row + 1) * length ≤ count * length := Nat.mul_le_mul_right length inside
  rw [Nat.succ_mul] at rows
  omega

theorem zeroed_writeRow (inside : row < count) (short : entries.length ≤ length)
    (whole : cells.length = count * length) :
    zeroed (writeRow cells length row entries) = zeroed cells := by
  rw [zeroed, zeroed, length_writeRow (row_within inside short whole)]

theorem sized_of_clear (sized : buffers.Sized count) {changed : TokenBuffers}
    (same : changed.clear = buffers.clear) : changed.Sized count := by
  have idsSame := congrArg (fun buffers => buffers.ids.length) same
  have maskSame := congrArg (fun buffers => buffers.mask.length) same
  have typesSame := congrArg (fun buffers => buffers.types.map List.length) same
  simp only [clear, zeroed, List.length_replicate, Option.map_map] at idsSame maskSame typesSame
  refine ⟨idsSame.trans sized.ids, maskSame.trans sized.mask, ?_⟩
  intro types member
  rw [Option.mem_def] at member
  rw [member] at typesSame
  cases given : buffers.types with
  | none => simp [given] at typesSame
  | some former =>
      have equal : types.length = former.length := by simpa [given, zeroed] using typesSame
      exact equal.trans (sized.types former given)

theorem Sized.clear (sized : buffers.Sized count) : buffers.clear.Sized count :=
  sized_of_clear sized (clear_clear buffers)

theorem clear_putWindow (sized : buffers.Sized (count * length)) (inside : row < count)
    (window : Window) : (buffers.putWindow length row window).2.clear = buffers.clear := by
  unfold putWindow
  split
  · rfl
  · rename_i fits
    simp only [ne_eq, not_or, Decidable.not_not] at fits
    have ids := zeroed_writeRow inside (Nat.le_of_eq fits.1) sized.ids
    have mask := zeroed_writeRow inside (Nat.le_of_eq fits.2) sized.mask
    dsimp only
    split
    · rename_i types entries given _
      split
      · rename_i same
        have typed := zeroed_writeRow inside (Nat.le_of_eq same) (sized.types types given)
        simp only [clear, ids, mask, given, Option.map_some, typed]
      · simp only [clear, ids, mask]
    · simp only [clear, ids, mask]
    · simp only [clear, ids, mask]
    · simp only [clear, ids, mask]

theorem clear_putWindows (sized : buffers.Sized (count * length))
    (inside : row + windows.length ≤ count) :
    (putWindows length row buffers windows).2.clear = buffers.clear := by
  induction windows generalizing buffers row with
  | nil => rfl
  | cons window rest ih =>
      rw [List.length_cons] at inside
      have kept := clear_putWindow sized (by omega : row < count) window
      unfold putWindows
      split
      · rename_i written put
        rw [put] at kept
        exact (ih (sized_of_clear sized kept) (by omega)).trans kept
      · exact kept

theorem length_readRow_le (cells : List Int) (length row : Nat) :
    (readRow cells length row).length ≤ length := by
  rw [readRow, List.length_take]
  exact Nat.min_le_left _ _

theorem clear_putEncoding (sized : buffers.Sized (count * length)) (inside : row < count)
    (encoding : Encoding) : (buffers.putEncoding length row encoding).clear = buffers.clear := by
  have short (words : List Nat) : ((Window.widen words).take length).length ≤ length := by
    rw [List.length_take]
    exact Nat.min_le_left _ _
  have ids := zeroed_writeRow inside (short encoding.ids) sized.ids
  have masked : (if encoding.mask.isEmpty then
      Window.deriveMask (readRow
        (writeRow buffers.ids length row ((Window.widen encoding.ids).take length)) length row)
      else (Window.widen encoding.mask).take length).length ≤ length := by
    split
    · rw [Window.deriveMask, List.length_map]
      exact length_readRow_le _ _ _
    · exact short encoding.mask
  have mask := zeroed_writeRow inside masked sized.mask
  cases given : buffers.types with
  | none => simp only [putEncoding, clear, ids, mask, given, Option.map_none]
  | some types =>
      have typed := zeroed_writeRow inside (short encoding.types) (sized.types types given)
      simp only [putEncoding, clear, ids, mask, given, Option.map_some, typed]

theorem clear_putEncodings (sized : buffers.Sized (count * length))
    (inside : row + encodings.length ≤ count) :
    (putEncodings length row buffers encodings).clear = buffers.clear := by
  induction encodings generalizing buffers row with
  | nil => rfl
  | cons encoding rest ih =>
      rw [List.length_cons] at inside
      have kept := clear_putEncoding sized (by omega : row < count) encoding
      exact (ih (sized_of_clear sized kept) (by omega)).trans kept

/-- Filling that does not look at what it overwrites. -/
structure Overwrites {ε : Type} (fill : TokenBuffers → Except ε Unit × TokenBuffers) : Prop where
  result : ∀ buffers, (fill buffers).1 = (fill buffers.clear).1
  written : ∀ buffers, (fill buffers).1 = .ok () → (fill buffers).2 = (fill buffers.clear).2
  sizes : ∀ buffers, (fill buffers).2.clear = buffers.clear

theorem elementCount_go_prod {all sizes : List Nat} {count total : Nat}
    (counted : elementCount.go all count sizes = .ok total) : total = count * sizes.prod := by
  induction sizes generalizing count with
  | nil => simpa using (Except.ok.inj counted).symm
  | cons size rest ih =>
      rw [elementCount.go] at counted
      split at counted
      · rw [ih counted, List.prod_cons, Nat.mul_assoc]
      · cases counted

theorem elementCount_prod {sizes : List Nat} {total : Nat}
    (counted : elementCount sizes = .ok total) : total = sizes.prod := by
  rw [elementCount_go_prod counted, Nat.one_mul]

/-- Filling overwrites where its check only looks at sizes, and what follows starts from cleared
buffers. -/
theorem overwrites_of_check {ε : Type} {fill : TokenBuffers → Except ε Unit × TokenBuffers}
    (checked : TokenBuffers → Except ε Unit) (put : TokenBuffers → Except ε Unit × TokenBuffers)
    (refused : ∀ buffers error, checked buffers = .error error →
      fill buffers = (.error error, buffers))
    (passed : ∀ buffers, checked buffers = .ok () → fill buffers = put buffers.clear)
    (sizesOnly : ∀ buffers, checked buffers.clear = checked buffers)
    (puts : ∀ buffers, checked buffers = .ok () → (put buffers.clear).2.clear = buffers.clear) :
    Overwrites fill := by
  have cleared (buffers : TokenBuffers) (accepted : checked buffers = .ok ()) :
      fill buffers.clear = fill buffers := by
    rw [passed buffers accepted, passed buffers.clear ((sizesOnly buffers).trans accepted),
      clear_clear]
  refine ⟨fun buffers => ?_, fun buffers success => ?_, fun buffers => ?_⟩
  · cases outcome : checked buffers with
    | ok _ => rw [cleared buffers outcome]
    | error error =>
        rw [refused buffers error outcome,
          refused buffers.clear error ((sizesOnly buffers).trans outcome)]
  · cases outcome : checked buffers with
    | ok _ => rw [cleared buffers outcome]
    | error error =>
        rw [refused buffers error outcome] at success
        cases success
  · cases outcome : checked buffers with
    | ok _ =>
        rw [passed buffers outcome]
        exact puts buffers outcome
    | error error => rw [refused buffers error outcome]

/-- What is checked before windows are written. -/
def windowsCheck (length : Nat) (windows : List Window) (buffers : TokenBuffers) :
    Except InputFault Unit := do
  if windows.isEmpty then throw .noWindows
  buffers.check (← elementCount [windows.length, length])

/-- What is checked before encodings are written. -/
def encodingsCheck (length : Nat) (encodings : List Encoding) (buffers : TokenBuffers) :
    Except EmbeddingError Unit := do
  let total ← (elementCount [encodings.length, length]).mapError .invalidInput
  (buffers.check total).mapError .invalidInput
  checkEncodings 0 encodings

theorem sized_of_windowsCheck (passed : windowsCheck length windows buffers = .ok ()) :
    buffers.Sized (windows.length * length) := by
  unfold windowsCheck at passed
  split at passed
  · cases passed
  · obtain ⟨total, counted, passed⟩ := ok_of_bind passed
    have sized := sized_of_check passed
    simpa [elementCount_prod counted] using sized

theorem sized_of_encodingsCheck (passed : encodingsCheck length encodings buffers = .ok ()) :
    buffers.Sized (encodings.length * length) := by
  obtain ⟨total, counted, passed⟩ := ok_of_bind passed
  obtain ⟨_, fits, -⟩ := ok_of_bind passed
  have sized := sized_of_check (ok_of_mapError fits)
  simpa [elementCount_prod (ok_of_mapError counted)] using sized

/-- Windows are written one by one, and the first that does not fit ends the filling. -/
theorem fillWindows_overwrites (length : Nat) (windows : List Window) :
    Overwrites fun buffers => buffers.fillWindows length windows := by
  refine overwrites_of_check (windowsCheck length windows)
    (fun buffers => putWindows length 0 buffers windows) (fun buffers fault refused => ?_)
    (fun buffers passed => ?_) (fun buffers => ?_) fun buffers passed => ?_
  · unfold windowsCheck at refused
    unfold fillWindows
    rw [refused]
  · unfold windowsCheck at passed
    unfold fillWindows
    rw [passed]
  · simp only [windowsCheck, check_clear]
  · have sized := sized_of_windowsCheck passed
    exact (clear_putWindows sized.clear (by omega)).trans (clear_clear buffers)

/-- Encodings are only written once all of them have passed their checks. -/
theorem fillEncodings_overwrites (length : Nat) (encodings : List Encoding) :
    Overwrites fun buffers => buffers.fillEncodings length encodings := by
  refine overwrites_of_check (encodingsCheck length encodings)
    (fun buffers => (.ok (), putEncodings length 0 buffers encodings))
    (fun buffers error refused => ?_) (fun buffers passed => ?_) (fun buffers => ?_)
    fun buffers passed => ?_
  · unfold encodingsCheck at refused
    unfold fillEncodings
    rw [refused]
  · unfold encodingsCheck at passed
    unfold fillEncodings
    rw [passed]
  · simp only [encodingsCheck, check_clear]
  · have sized := sized_of_encodingsCheck passed
    exact (clear_putEncodings sized.clear (by omega)).trans (clear_clear buffers)

end TextVectors.TokenBuffers

import TextVectors.Proofs.Embedding.Reuse

namespace TextVectors

/-! Filled buffers, row by row.

A row of the buffers is a window of its own.  Whether windows or encodings are written into blank
buffers, what comes out are the rows one after the other.
-/

theorem Encoding.check_iff {encoding : Encoding} : encoding.check = .ok () ↔
    (encoding.mask = [] ∨ encoding.mask.length = encoding.ids.length) ∧
      (encoding.types = [] ∨ encoding.types.length = encoding.ids.length) := by
  rw [← List.length_eq_zero_iff, ← List.length_eq_zero_iff]
  unfold check
  dsimp only
  split
  · simp only [reduceCtorEq, false_iff]
    omega
  · split
    · simp only [reduceCtorEq, false_iff]
      omega
    · simp only [true_iff]
      omega

namespace Window

variable {length : Nat} {useTypes : Bool} {window : Window}

/-- The row of an encoding: its first tokens, filled up with zeros. -/
def ofEncoding (length : Nat) (useTypes : Bool) (encoding : Encoding) : Window where
  ids := padded length (widen encoding.ids)
  mask :=
    if encoding.mask.isEmpty then deriveMask (padded length (widen encoding.ids))
    else padded length (widen encoding.mask)
  types := if useTypes then some (padded length (widen encoding.types)) else none

/-- A window that is one row. -/
structure Fits (length : Nat) (useTypes : Bool) (window : Window) : Prop where
  ids : window.ids.length = length
  mask : window.mask.length = length
  types : window.types.map List.length = if useTypes then some length else none

theorem length_padded (length : Nat) (entries : List Int) :
    (padded length entries).length = length := by
  simp only [padded, List.length_append, List.length_take, List.length_replicate]
  omega

theorem ofEncoding_fits (length : Nat) (useTypes : Bool) (encoding : Encoding) :
    (ofEncoding length useTypes encoding).Fits length useTypes where
  ids := length_padded length _
  mask := by
    unfold ofEncoding
    dsimp only
    split
    · rw [deriveMask, List.length_map, length_padded]
    · exact length_padded length _
  types := by cases useTypes <;> simp [ofEncoding, length_padded]

/-- The type ids of a row, none where they are not read. -/
def typeCells (window : Window) : List Int :=
  window.types.getD []

theorem Fits.typeCells (fits : window.Fits length true) : window.typeCells.length = length := by
  have typed := fits.types
  cases given : window.types with
  | none => simp [given] at typed
  | some types => simpa [Window.typeCells, given] using typed

section Short

variable {encoding : Encoding}

theorem deriveMask_padded (length : Nat) (ids : List Int) :
    deriveMask (padded length ids) = padded length (deriveMask ids) := by
  simp [deriveMask, padded]

theorem windowAt_zero (length : Nat) (useTypes : Bool) (encoding : Encoding) :
    (Tokens.ofEncoding encoding).windowAt length useTypes 0 =
      ofEncoding length useTypes encoding := by
  unfold Tokens.windowAt Tokens.ofEncoding ofEncoding
  dsimp only
  simp only [List.drop_zero]
  split
  · rw [deriveMask_padded]
  · rfl

theorem blank_eq_ofEncoding (checked : encoding.check = .ok ()) (none : encoding.ids = []) :
    blank length useTypes = ofEncoding length useTypes encoding := by
  have parts : encoding.mask = [] ∧ encoding.types = [] := by
    simpa [none] using Encoding.check_iff.mp checked
  simp [blank, ofEncoding, parts.1, parts.2, none, widen, padded, deriveMask]

end Short

end Window

namespace TokenBuffers

variable {length : Nat} {useTypes : Bool} {parts : Window → List Int}
variable {done rest rows : List Window} {window : Window}

def ofRows (useTypes : Bool) (rows : List Window) : TokenBuffers where
  ids := rows.flatMap (·.ids)
  mask := rows.flatMap (·.mask)
  types := if useTypes then some (rows.flatMap (·.typeCells)) else none

theorem length_flatMap (whole : ∀ row ∈ rows, (parts row).length = length) :
    (rows.flatMap parts).length = rows.length * length := by
  induction rows with
  | nil => simp
  | cons row rest ih =>
      rw [List.flatMap_cons, List.length_append, whole row List.mem_cons_self,
        ih fun other member => whole other (List.mem_cons_of_mem _ member), List.length_cons,
        Nat.succ_mul, Nat.add_comm]

theorem blank_eq (count length : Nat) : blank useTypes (count * length) =
    ofRows useTypes (List.replicate count (Window.blank length useTypes)) := by
  have zeros (parts : Window → List Int)
      (blank : parts (Window.blank length useTypes) = List.replicate length 0) :
      (List.replicate count (Window.blank length useTypes)).flatMap parts =
        List.replicate (count * length) 0 := by
    rw [List.flatMap_replicate, blank, List.flatten_replicate_replicate]
  unfold TokenBuffers.blank ofRows
  rw [zeros (·.ids) rfl, zeros (·.mask) rfl]
  cases useTypes with
  | false => rfl
  | true =>
      rw [zeros (·.typeCells) rfl]

/-- Entries over a row of zeros, with rows in front of it and behind it. -/
theorem writeRow_over {front behind entries : List Int} {row : Nat}
    (placed : front.length = row * length) (short : entries.length ≤ length) :
    writeRow (front ++ (List.replicate length 0 ++ behind)) length row entries =
      front ++ (Window.padded length entries ++ behind) := by
  have filled : List.drop entries.length (List.replicate length (0 : Int) ++ behind) =
      List.replicate (length - entries.length) 0 ++ behind := by
    rw [List.drop_append_of_le_length (by simpa using short), List.drop_replicate]
  rw [writeRow, ← placed, List.take_left, List.drop_append, List.drop_eq_nil_of_le (by omega),
    List.nil_append, Nat.add_sub_cancel_left, filled, Window.padded, List.take_of_length_le short]
  simp only [List.append_assoc]

theorem readRow_at {front row : List Int} (behind : List Int) {position : Nat}
    (placed : front.length = position * length) (whole : row.length = length) :
    readRow (front ++ (row ++ behind)) length position = row := by
  rw [readRow, ← placed, List.drop_left, List.take_append_of_le_length (by omega),
    List.take_of_length_le (by omega)]

theorem padded_take (length : Nat) (entries : List Int) :
    Window.padded length (entries.take length) = Window.padded length entries := by
  simp only [Window.padded, List.take_take, List.length_take, Nat.min_self]
  congr 2
  omega

theorem padded_of_length {entries : List Int} (whole : entries.length = length) :
    Window.padded length entries = entries := by
  rw [Window.padded, ← whole, List.take_length, Nat.sub_self, List.replicate_zero, List.append_nil]

/-- Entries written over a blank row, in any of the parts of the buffers. -/
theorem writeRow_flatMap (useTypes : Bool) (parts : Window → List Int) (rest : List Window)
    (window : Window) {entries : List Int}
    (blank : parts (Window.blank length useTypes) = List.replicate length 0)
    (placed : ∀ row ∈ done, (parts row).length = length) (short : entries.length ≤ length)
    (written : parts window = Window.padded length entries) :
    writeRow ((done ++ Window.blank length useTypes :: rest).flatMap parts) length done.length
        entries =
      (done ++ window :: rest).flatMap parts := by
  simp only [List.flatMap_append, List.flatMap_cons, blank, written]
  exact writeRow_over (length_flatMap placed) short

section Filling

variable (placed : ∀ row ∈ done, row.Fits length useTypes)
include placed

theorem putEncoding_ofRows (encoding : Encoding) :
    (ofRows useTypes (done ++ Window.blank length useTypes :: rest)).putEncoding length done.length
        encoding =
      ofRows useTypes (done ++ Window.ofEncoding length useTypes encoding :: rest) := by
  have short (words : List Nat) : ((Window.widen words).take length).length ≤ length := by
    rw [List.length_take]
    exact Nat.min_le_left _ _
  have ids := writeRow_flatMap useTypes (·.ids) rest (.ofEncoding length useTypes encoding) rfl
    (fun row member => (placed row member).ids) (short encoding.ids) (padded_take length _).symm
  have row : readRow
      ((done ++ Window.ofEncoding length useTypes encoding :: rest).flatMap (·.ids)) length
      done.length = Window.padded length (Window.widen encoding.ids) := by
    rw [List.flatMap_append, List.flatMap_cons]
    exact readRow_at _ (length_flatMap fun row member => (placed row member).ids)
      (Window.length_padded length _)
  have mask : writeRow ((done ++ Window.blank length useTypes :: rest).flatMap (·.mask)) length
      done.length (if encoding.mask.isEmpty then
        Window.deriveMask (Window.padded length (Window.widen encoding.ids))
        else (Window.widen encoding.mask).take length) =
      (done ++ Window.ofEncoding length useTypes encoding :: rest).flatMap (·.mask) := by
    have derived : (Window.deriveMask (Window.padded length (Window.widen encoding.ids))).length =
        length := by
      rw [Window.deriveMask, List.length_map, Window.length_padded]
    apply writeRow_flatMap useTypes (·.mask) rest _ rfl fun row member => (placed row member).mask
    · split
      · exact Nat.le_of_eq derived
      · exact short _
    · simp only [Window.ofEncoding]
      split
      · exact (padded_of_length derived).symm
      · exact (padded_take length _).symm
  unfold putEncoding
  simp only [ofRows, ids, row, mask]
  cases useTypes with
  | false => rfl
  | true =>
      have types := writeRow_flatMap true (·.typeCells) rest (.ofEncoding length true encoding) rfl
        (fun row member => (placed row member).typeCells) (short encoding.types)
        (padded_take length _).symm
      simp only [if_true, Option.map_some, types]

theorem putWindow_ofRows (fits : window.Fits length useTypes) :
    (ofRows useTypes (done ++ Window.blank length useTypes :: rest)).putWindow length done.length
        window =
      (.ok (), ofRows useTypes (done ++ window :: rest)) := by
  have ids := writeRow_flatMap useTypes (·.ids) rest window rfl
    (fun row member => (placed row member).ids) (Nat.le_of_eq fits.ids)
    (padded_of_length fits.ids).symm
  have mask := writeRow_flatMap useTypes (·.mask) rest window rfl
    (fun row member => (placed row member).mask) (Nat.le_of_eq fits.mask)
    (padded_of_length fits.mask).symm
  have same : ¬ (window.ids.length ≠ length ∨ window.mask.length ≠ length) := by
    simp [fits.ids, fits.mask]
  unfold putWindow
  rw [if_neg same]
  simp only [ofRows, ids, mask]
  have typed := fits.types
  cases useTypes with
  | false =>
      cases given : window.types with
      | none => rfl
      | some entries => simp [given] at typed
  | true =>
      cases given : window.types with
      | none => simp [given] at typed
      | some entries =>
          have whole : entries.length = length := by simpa [given] using typed
          have types := writeRow_flatMap true (·.typeCells) rest window rfl
            (fun row member => (placed row member).typeCells) (Nat.le_of_eq whole)
            (by rw [padded_of_length whole, Window.typeCells, given]; rfl)
          simp only [if_true, if_pos whole, types]

end Filling

theorem placed_append (placed : ∀ row ∈ done, row.Fits length useTypes)
    (fits : window.Fits length useTypes) : ∀ row ∈ done ++ [window], row.Fits length useTypes := by
  intro row member
  rcases List.mem_append.mp member with former | last
  · exact placed row former
  · rw [List.mem_singleton] at last
    exact last ▸ fits

theorem putEncodings_ofRows (placed : ∀ row ∈ done, row.Fits length useTypes)
    (encodings : List Encoding) :
    putEncodings length done.length (ofRows useTypes
        (done ++ List.replicate encodings.length (Window.blank length useTypes))) encodings =
      ofRows useTypes (done ++ encodings.map (Window.ofEncoding length useTypes)) := by
  induction encodings generalizing done with
  | nil => rfl
  | cons encoding rest ih =>
      have next := ih (placed_append placed (Window.ofEncoding_fits length useTypes encoding))
      rw [List.length_append, List.length_singleton, List.append_assoc, List.append_assoc] at next
      rw [putEncodings, List.length_cons, List.replicate_succ, putEncoding_ofRows placed,
        List.map_cons]
      exact next

theorem putWindows_ofRows (placed : ∀ row ∈ done, row.Fits length useTypes)
    {windows : List Window} (fits : ∀ window ∈ windows, window.Fits length useTypes) :
    putWindows length done.length (ofRows useTypes
        (done ++ List.replicate windows.length (Window.blank length useTypes))) windows =
      (.ok (), ofRows useTypes (done ++ windows)) := by
  induction windows generalizing done with
  | nil => rfl
  | cons window rest ih =>
      have next := ih (placed_append placed (fits window List.mem_cons_self))
        fun other member => fits other (List.mem_cons_of_mem _ member)
      rw [List.length_append, List.length_singleton, List.append_assoc, List.append_assoc] at next
      rw [putWindows, List.length_cons, List.replicate_succ,
        putWindow_ofRows placed (fits window List.mem_cons_self)]
      exact next

theorem clear_blank (typed : Bool) (count : Nat) : (blank typed count).clear = blank typed count := by
  cases typed <;> simp [clear, blank, zeroed]

theorem fillEncodings_blank {encodings : List Encoding} {count : Nat}
    (passed : encodingsCheck length encodings (blank useTypes count) = .ok ()) :
    (blank useTypes count).fillEncodings length encodings =
      (.ok (), ofRows useTypes (encodings.map (Window.ofEncoding length useTypes))) := by
  have sized := sized_of_encodingsCheck passed
  have size : count = encodings.length * length := by
    simpa [blank] using sized.ids
  unfold encodingsCheck at passed
  unfold fillEncodings
  rw [passed, clear_blank, size, blank_eq]
  have none : ∀ row ∈ ([] : List Window), row.Fits length useTypes := by simp
  have filled := putEncodings_ofRows none encodings
  rw [List.nil_append, List.nil_append] at filled
  exact congrArg _ filled

theorem fillWindows_blank {windows : List Window} {count : Nat}
    (passed : windowsCheck length windows (blank useTypes count) = .ok ())
    (fits : ∀ window ∈ windows, window.Fits length useTypes) :
    (blank useTypes count).fillWindows length windows = (.ok (), ofRows useTypes windows) := by
  have sized := sized_of_windowsCheck passed
  have size : count = windows.length * length := by
    simpa [blank] using sized.ids
  unfold windowsCheck at passed
  unfold fillWindows
  rw [passed, clear_blank, size, blank_eq]
  have none : ∀ row ∈ ([] : List Window), row.Fits length useTypes := by simp
  have filled := putWindows_ofRows none fits
  rw [List.nil_append, List.nil_append] at filled
  exact filled

end TokenBuffers

end TextVectors

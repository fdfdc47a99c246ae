import TextVectors.Proofs.Embedding.Answers
import TextVectors.Proofs.Sparse.Windows

namespace TextVectors

/-! Models that compute each row of their output from the same row of their inputs. -/

open Inference

/-- One row of the contents of a buffer. -/
def Inference.Contents.row (length position : Nat) (contents : Contents) : Contents :=
  ⟨contents.element, (contents.cells.drop (position * length)).take length⟩

def NamedBuffers.row (length position : Nat) (buffers : NamedBuffers) : NamedBuffers :=
  buffers.map fun buffer => (buffer.1, buffer.2.row length position)

/-- Every row of the output, of a width, is the same function of the rows that the inputs have
there, whatever the size of the batch. -/
def RowWise (length width : Nat) (compute : NamedBuffers → Nat → Float32) : Prop :=
  ∃ ofRow : NamedBuffers → Nat → Float32, ∀ batch (buffers : NamedBuffers) cell,
    (∀ buffer ∈ buffers, buffer.2.cells.length = batch * length) → cell < batch * width →
      compute buffers cell = ofRow (buffers.row length (cell / width)) (cell % width)

section Rows

variable {length width : Nat} {useTypes : Bool} {rows : List Window} {parts : Window → List Int}

theorem readRow_flatMap (whole : ∀ row ∈ rows, (parts row).length = length) {position : Nat}
    {row : Window} (found : rows[position]? = some row) :
    TokenBuffers.readRow (rows.flatMap parts) length position = parts row := by
  obtain ⟨inside, rfl⟩ := List.getElem?_eq_some_iff.mp found
  have split : rows = rows.take position ++ rows[position] :: rows.drop (position + 1) := by
    rw [List.getElem_cons_drop, List.take_append_drop]
  have front : ((rows.take position).flatMap parts).length = position * length := by
    rw [TokenBuffers.length_flatMap fun row member => whole row (List.mem_of_mem_take member),
      List.length_take, Nat.min_eq_left (Nat.le_of_lt inside)]
  have placed := TokenBuffers.readRow_at ((rows.drop (position + 1)).flatMap parts) front
    (whole rows[position] (List.getElem_mem inside))
  rw [← List.flatMap_cons, ← List.flatMap_append, ← split] at placed
  exact placed

variable {model : BoundModel}

theorem contents_row (fits : ∀ row ∈ rows, row.Fits length useTypes) {position : Nat}
    {row : Window} (found : rows[position]? = some row) :
    (TokenBuffers.ofRows useTypes rows).contents.map (·.row length position) =
      (TokenBuffers.ofRows useTypes [row]).contents := by
  have ids := readRow_flatMap (fun row member => (fits row member).ids) found
  have mask := readRow_flatMap (fun row member => (fits row member).mask) found
  unfold TokenBuffers.readRow at ids mask
  cases useTypes with
  | false =>
      simp [TokenBuffers.contents, TokenBuffers.ofRows, Contents.row, ids, mask]
  | true =>
      have types := readRow_flatMap (fun row member => (fits row member).typeCells) found
      unfold TokenBuffers.readRow at types
      simp [TokenBuffers.contents, TokenBuffers.ofRows, Contents.row, ids, mask, types]

theorem named_row (fits : ∀ row ∈ rows, row.Fits length useTypes) {position : Nat} {row : Window}
    (found : rows[position]? = some row) :
    NamedBuffers.row length position (model.named (.ofRows useTypes rows)) =
      model.named (.ofRows useTypes [row]) := by
  rw [BoundModel.named, BoundModel.named, ← contents_row fits found, List.zip_map_right]
  rfl

theorem length_of_mem_named (fits : ∀ row ∈ rows, row.Fits length useTypes)
    {buffer : String × Contents} (member : buffer ∈ model.named (.ofRows useTypes rows)) :
    buffer.2.cells.length = rows.length * length := by
  have ids := TokenBuffers.length_flatMap fun row member => (fits row member).ids
  have mask := TokenBuffers.length_flatMap fun row member => (fits row member).mask
  have inside := (List.of_mem_zip member).2
  cases useTypes with
  | false =>
      simp only [TokenBuffers.contents, TokenBuffers.ofRows, Bool.false_eq_true, if_false,
        Option.map_none, Option.toList_none, List.mem_cons, List.not_mem_nil, or_false] at inside
      rcases inside with same | same
      · rw [same]; exact ids
      · rw [same]; exact mask
  | true =>
      have types := TokenBuffers.length_flatMap fun row member => (fits row member).typeCells
      simp only [TokenBuffers.contents, TokenBuffers.ofRows, if_true, Option.map_some,
        Option.toList_some, List.mem_cons, List.not_mem_nil, or_false] at inside
      rcases inside with same | same | same
      · rw [same]; exact ids
      · rw [same]; exact mask
      · rw [same]; exact types

/-- A row computes in a batch what it computes alone. -/
theorem RowWise.compute_row {compute : NamedBuffers → Nat → Float32}
    (rowWise : RowWise length width compute) (fits : ∀ row ∈ rows, row.Fits length useTypes)
    {position cell : Nat} {row : Window} (found : rows[position]? = some row)
    (inside : cell < width) :
    compute (model.named (.ofRows useTypes rows)) (position * width + cell) =
      compute (model.named (.ofRows useTypes [row])) cell := by
  obtain ⟨ofRow, computes⟩ := rowWise
  have fitsAlone : ∀ other ∈ [row], other.Fits length useTypes := by
    intro other member
    rw [List.mem_singleton] at member
    exact member ▸ fits row (List.mem_of_getElem? found)
  have before : position < rows.length := (List.getElem?_eq_some_iff.mp found).1
  have within : position * width + cell < rows.length * width := by
    have next : (position + 1) * width ≤ rows.length * width := Nat.mul_le_mul_right width before
    rw [Nat.succ_mul] at next
    omega
  have division : (position * width + cell) / width = position := by
    rw [Nat.add_comm, Nat.add_mul_div_right _ _ (by omega), Nat.div_eq_of_lt inside, Nat.zero_add]
  have remainder : (position * width + cell) % width = cell := by
    rw [Nat.add_comm, Nat.add_mul_mod_self_right, Nat.mod_eq_of_lt inside]
  rw [computes rows.length _ _ (fun _ member => length_of_mem_named fits member) within, division,
    remainder, named_row fits found]
  rw [computes 1 _ _ (fun _ member => length_of_mem_named fitsAlone member) (by omega),
    Nat.div_eq_of_lt inside, Nat.mod_eq_of_lt inside, named_row fitsAlone (List.getElem?_cons_zero)]

end Rows

section Chunks

theorem chunks_range {α : Type} (width count : Nat) (cells : Nat → α) :
    Pooling.chunks width count ((List.range (count * width)).map cells) =
      (List.range count).map fun position =>
        (List.range width).map fun cell => cells (position * width + cell) := by
  induction count generalizing cells with
  | zero => rfl
  | succ count ih =>
      have split : (List.range ((count + 1) * width)).map cells =
          (List.range width).map cells ++
            (List.range (count * width)).map fun cell => cells (width + cell) := by
        rw [Nat.succ_mul, Nat.add_comm, List.range_add, List.map_append, List.map_map]
        rfl
      have wide : ((List.range width).map cells).length = width := by simp
      rw [Pooling.chunks, split, List.take_left' wide, List.drop_left' wide, ih,
        List.range_succ_eq_map, List.map_cons, List.map_map]
      refine congrArg₂ List.cons (by simp) (List.map_congr_left fun position _ => ?_)
      refine List.map_congr_left fun cell _ => ?_
      rw [Nat.succ_mul]
      congr 1
      omega

theorem chunks_flatMap {length : Nat} {rows : List Window} {parts : Window → List Int}
    (whole : ∀ row ∈ rows, (parts row).length = length) :
    Pooling.chunks length rows.length (rows.flatMap parts) = rows.map parts := by
  induction rows with
  | nil => rfl
  | cons row rest ih =>
      have wide := whole row List.mem_cons_self
      rw [List.length_cons, Pooling.chunks, List.flatMap_cons, List.take_left' wide,
        List.drop_left' wide, ih fun other member => whole other (List.mem_cons_of_mem _ member),
        List.map_cons]

end Chunks

section Outputs

variable {length width : Nat} {useTypes : Bool} {rows : List Window} {model : BoundModel}
variable {compute : NamedBuffers → Nat → Float32}

/-- What a row computes alone. -/
def rowOutput (model : BoundModel) (width : Nat) (row : Window) : List Float32 :=
  (List.range width).map
    (model.compute (model.named (.ofRows model.binding.usesTokenTypes [row])))

theorem RowWise.chunks_output (model : BoundModel) (rowWise : RowWise length width model.compute)
    (fits : ∀ row ∈ rows, row.Fits length model.binding.usesTokenTypes) :
    Pooling.chunks width rows.length ((List.range (rows.length * width)).map
        (model.compute (model.named (.ofRows model.binding.usesTokenTypes rows)))) =
      rows.map (rowOutput model width) := by
  rw [chunks_range]
  apply List.ext_getElem?
  intro position
  rw [List.getElem?_map, List.getElem?_map]
  cases found : rows[position]? with
  | none =>
      have outside := List.getElem?_eq_none_iff.mp found
      rw [List.getElem?_eq_none (by simpa using outside)]
      rfl
  | some row =>
      have inside : position < rows.length := (List.getElem?_eq_some_iff.mp found).1
      rw [List.getElem?_range inside]
      refine congrArg some (List.map_congr_left fun cell member => ?_)
      exact rowWise.compute_row fits found (List.mem_range.mp member)

end Outputs

end TextVectors

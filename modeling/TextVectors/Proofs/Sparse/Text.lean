import TextVectors.Proofs.Binary32
import TextVectors.Proofs.Json.Excerpt
import TextVectors.Proofs.Json.RoundTrip
import TextVectors.Sparse.Vector

namespace TextVectors

/-! Sparse vectors as they are written and read.

What is written is a record from which the labels may be left out, and then none are read.  A number
that is not finite has no written form; what stands in its place is no number.
-/

open Json

namespace Json

section Lists

variable {α : Type} {values : List α} {write : α → Json} {read : Json → Option α}

theorem listOf?_array (read : Json → Option α) (elements : List Json) :
    (array elements).listOf? read = elements.mapM read :=
  rfl

/-- A list reads back if each of its elements does. -/
theorem listOf?_written (reads : ∀ value ∈ values, read (write value) = some value) :
    (array (values.map write)).listOf? read = some values := by
  rw [listOf?_array]
  induction values with
  | nil => rfl
  | cons value rest ih =>
      obtain ⟨first, others⟩ := List.forall_mem_cons.mp reads
      simp [List.mapM_cons, first, ih others]

/-- An element that cannot be read spoils its list. -/
theorem listOf?_unreadable (unreadable : ∃ value ∈ values, read (write value) = none) :
    (array (values.map write)).listOf? read = none := by
  rw [listOf?_array]
  induction values with
  | nil => simp at unreadable
  | cons value rest ih =>
      cases first : read (write value) with
      | none => simp [List.mapM_cons, first]
      | some found =>
          rw [List.exists_mem_cons_iff, first] at unreadable
          have later := unreadable.resolve_left nofun
          simp [List.mapM_cons, first, ih later]

theorem array_proper (proper : ∀ value ∈ values, (write value).Proper) :
    (array (values.map write)).Proper := by
  apply Proper.array
  intro element member
  obtain ⟨value, listed, rfl⟩ := List.mem_map.mp member
  exact proper value listed

end Lists

theorem ofBinary32_eq (value : Float32) :
    ofBinary32 value = if value.isFinite then .number (.ofBinary32 value) else .null := by
  have finite : value.isFinite = !(value.isNaN || value.isInf) := by
    simp only [Float32.isFinite, Float32.isNaN, Float32.isInf, Float32.Model.isFinite,
      Float32.Model.isNaN, Float32.Model.isInf]
    rcases value.toModel.unpack with (_ | _) | _ | _ | _ <;> rfl
  rw [ofBinary32, finite]
  cases value.isNaN || value.isInf <;> rfl

theorem ofBinary32_proper (value : Float32) : (ofBinary32 value).Proper := by
  rw [ofBinary32_eq]
  split
  · exact .number (JsonNumber.ofBinary32_proper value)
  · exact .null

/-- A required field is read from what was written for it. -/
theorem Fields.Shows.required {α : Type} {fields : Fields} {whole : List (String × Json)}
    {given : List String} (shows : fields.Shows whole given) {name : String} {value : Json}
    (listed : (name, value) ∈ whole) (written : name ∈ given) (read : Json → Option α) :
    fields.required name read = read value := by
  unfold Fields.required
  rw [shows _ listed, if_pos written]
  rfl

end Json

namespace SparseVector

variable {vector : SparseVector}

/-- Labels, with null for none. -/
def labelsJson : Option (List String) → Json
  | none => .null
  | some labels => .array (labels.map text)

/-- All fields of a vector. -/
def allMembers (vector : SparseVector) : List (String × Json) :=
  [("indices", .array (vector.indices.map natural)),
    ("values", .array (vector.values.map ofBinary32)),
    ("labels", labelsJson vector.labels)]

/-- The fields that are written. -/
def members (vector : SparseVector) : List (String × Json) :=
  vector.allMembers.take (if vector.labels.isSome then 3 else 2)

theorem toJson_eq (vector : SparseVector) : vector.toJson = record vector.members := by
  obtain ⟨indices, values, labels⟩ := vector
  cases labels <;> rfl

theorem members_names (vector : SparseVector) :
    vector.members.map Prod.fst =
      ["indices", "values"] ++ if vector.labels.isSome then ["labels"] else [] := by
  unfold members
  split <;> rfl

theorem members_excerpt (vector : SparseVector) : Excerpt vector.allMembers vector.members :=
  (List.filter_sublist.trans (List.take_sublist _ _)).subperm

theorem labels?_labelsJson (labels : Option (List String)) :
    labels? (labelsJson labels) = some labels := by
  cases labels with
  | none => rfl
  | some labels =>
      have reads : (array (labels.map text)).listOf? text? = some labels :=
        listOf?_written fun label _ => rfl
      simp [labels?, labelsJson, reads]

/-- What is written for a vector is a text of the grammar, whatever its values are. -/
theorem read?_compact_toJson (vector : SparseVector) :
    read? vector.toJson.compact = some vector.toJson := by
  apply read?_compact
  rw [toJson_eq]
  apply record_proper
  intro member listed
  have among := List.mem_of_mem_take listed
  simp only [allMembers, List.mem_cons, List.not_mem_nil, or_false] at among
  rcases among with rfl | rfl | rfl
  · exact array_proper fun index _ => .number (natural_proper index)
  · exact array_proper fun value _ => ofBinary32_proper value
  · cases vector.labels with
    | none => exact .null
    | some labels => exact array_proper fun label _ => .string (some label)

/-- A vector is read from its lists as they were written, with its own labels. -/
theorem ofJson?_toJson (vector : SparseVector) :
    ofJson? vector.toJson = do
      let indices ← (array (vector.indices.map natural)).listOf? (natural? wordLimit)
      let values ← (array (vector.values.map ofBinary32)).listOf? binary32?
      return { indices, values, labels := vector.labels } := by
  have distinct : (vector.allMembers.map Prod.fst).Nodup := by
    simp [allMembers]
  have named : vector.allMembers.map Prod.fst = fieldNames := rfl
  obtain ⟨fields, found, shows⟩ := vector.members_excerpt.fields? distinct
  rw [members_names] at shows
  have readIndices := shows.required List.mem_cons_self (by simp)
    (listOf? (natural? wordLimit))
  have readValues := shows.required (List.mem_cons_of_mem _ List.mem_cons_self) (by simp)
    (listOf? binary32?)
  have readLabels : fields.withDefault "labels" labels? none = some vector.labels := by
    rw [shows.withDefault (labels?_labelsJson vector.labels) "labels" (by simp [allMembers]) none]
    cases vector.labels <;> simp [pick]
  rw [named] at found
  rw [toJson_eq]
  simp only [ofJson?, found, readIndices, readValues, readLabels, bind, Option.bind]

/-- What can be written of a vector so that it reads back: its indices are words, and each value is
finite and reads back from the number that is written for it. -/
structure Writable (vector : SparseVector) : Prop where
  indices : ∀ index ∈ vector.indices, index < wordLimit
  finite : ∀ value ∈ vector.values, value.isFinite = true
  rereads : ∀ value ∈ vector.values, (JsonNumber.ofBinary32 value).binary32? = some value

theorem ofJson?_writable (writable : vector.Writable) : ofJson? vector.toJson = some vector := by
  have indices : (array (vector.indices.map natural)).listOf? (natural? wordLimit) =
      some vector.indices :=
    listOf?_written fun index member => natural?_natural (writable.indices index member)
  have values : (array (vector.values.map ofBinary32)).listOf? binary32? =
      some vector.values := by
    apply listOf?_written
    intro value member
    rw [ofBinary32_eq, if_pos (writable.finite value member)]
    exact writable.rereads value member
  rw [ofJson?_toJson, indices, values]
  rfl

theorem ofJson?_infinite (infinite : ∃ value ∈ vector.values, value.isFinite = false) :
    ofJson? vector.toJson = none := by
  have values : (array (vector.values.map ofBinary32)).listOf? binary32? = none := by
    apply listOf?_unreadable
    obtain ⟨value, member, special⟩ := infinite
    refine ⟨value, member, ?_⟩
    rw [ofBinary32_eq, special]
    rfl
  rw [ofJson?_toJson, values]
  cases (array (vector.indices.map natural)).listOf? (natural? wordLimit) <;> rfl

/-- What is written for a vector of finite values reads back as that vector, be it valid or not, with
any labels or with none.  A vector with a value that is not finite is written too, but its text is
that of no vector. -/
theorem written_vector_reads_back (vector : SparseVector) :
    (vector.Writable → (read? vector.toJson.compact).bind ofJson? = some vector) ∧
    ((∃ value ∈ vector.values, value.isFinite = false) →
      (read? vector.toJson.compact).bind ofJson? = none) := by
  rw [read?_compact_toJson, Option.bind_some]
  exact ⟨ofJson?_writable, ofJson?_infinite⟩

/-- The largest index twice, the least positive value and a negative zero, and labels that have to
be escaped. -/
def unruly : SparseVector where
  indices := [18446744073709551615, 18446744073709551615, 0]
  values := [0x00000001, 0x80000000, 0x7f7fffff, 0x3dcccccd].map Float32.ofBits
  labels := some ["", "\"\\", "\n\u0001é😀"]

theorem unruly_reads_back :
    unruly.Writable ∧ (read? unruly.toJson.compact).bind ofJson? = some unruly ∧
      (∀ labels, ∀ value ∈ [0x7fc00000, 0xff800000].map Float32.ofBits,
        let infinite : SparseVector := { unruly with values := [value], labels }
        (read? infinite.toJson.compact).bind ofJson? = none) := by
  have writable : unruly.Writable :=
    { indices := by decide
      finite := by decide
      rereads := by decide +kernel }
  refine ⟨writable, (written_vector_reads_back unruly).1 writable, fun labels value member => ?_⟩
  refine (written_vector_reads_back { unruly with values := [value], labels }).2
    ⟨value, List.mem_singleton_self value, ?_⟩
  revert value
  decide

end SparseVector

end TextVectors

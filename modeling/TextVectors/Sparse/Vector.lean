import TextVectors.Embedding.Error
import TextVectors.Json.Record

namespace TextVectors

/-! Sparse vectors: the entries of a vector that were kept, by ascending index.

Values run parallel to the indices, and so do labels where they are attached.  A
vector that was read from elsewhere may break these rules; `validate` checks
them.
-/

structure SparseVector where
  indices : List Nat
  values : List Float32
  labels : Option (List String)
deriving Repr, DecidableEq, Inhabited

namespace SparseVector

def length (vector : SparseVector) : Nat :=
  vector.indices.length

def isEmpty (vector : SparseVector) : Bool :=
  vector.indices.isEmpty

/-- The entries as pairs of index and value. -/
def entries (vector : SparseVector) : List (Nat × Float32) :=
  vector.indices.zip vector.values

def ofEntries (entries : List (Nat × Float32)) : SparseVector where
  indices := entries.map (·.1)
  values := entries.map (·.2)
  labels := none

/-- The first position whose index does not exceed the one in front of it. -/
def misplaced? : Nat → List Nat → Option Nat
  | position, first :: second :: rest =>
      if first ≥ second then some (position + 1)
      else misplaced? (position + 1) (second :: rest)
  | _, _ => none

/-- Lengths first, then the labels, then the order of the indices. -/
def validate (vector : SparseVector) : Except InputFault Unit := do
  if vector.indices.length ≠ vector.values.length then
    throw (.valueCount vector.indices.length vector.values.length)
  match vector.labels with
  | some labels =>
      if labels.length ≠ vector.indices.length then
        throw (.labelCount labels.length vector.indices.length)
  | none => pure ()
  match misplaced? 0 vector.indices with
  | some position => throw (.indexOrder position)
  | none => pure ()

/-- Halves the range of `size` positions from `base` on until one is left: the
last one whose index is not above the target, if the indices ascend. -/
def search (indices : List Nat) (target : Nat) : Nat → Nat → Nat → Nat
  | 0, base, _ => base
  | fuel + 1, base, size =>
      if size ≤ 1 then base
      else
        let half := size / 2
        let middle := base + half
        let base := if indices.getD middle 0 > target then base else middle
        search indices target fuel base (size - half)

/-- The value stored under an index, found by bisection. -/
def get? (vector : SparseVector) (index : Nat) : Option Float32 :=
  let position := search vector.indices index vector.length 0 vector.length
  if vector.indices[position]? = some index then vector.values[position]? else none

def fieldNames : List String :=
  ["indices", "values", "labels"]

/-- Labels are texts, or null for none. -/
def labels? : Json → Option (Option (List String))
  | .null => some none
  | value => (value.listOf? Json.text?).map some

/-- Indices and values must be given; labels may be left out. -/
def ofJson? (value : Json) : Option SparseVector := do
  let fields ← value.fields? fieldNames
  let indices ← fields.required "indices" (Json.listOf? (Json.natural? wordLimit))
  let values ← fields.required "values" (Json.listOf? Json.binary32?)
  let labels ← fields.withDefault "labels" labels? none
  return { indices, values, labels }

/-- Labels that are not attached are left out. -/
def toJson (vector : SparseVector) : Json :=
  let labels := match vector.labels with
    | none => []
    | some labels => [("labels", Json.array (labels.map Json.text))]
  .record ([
    ("indices", .array (vector.indices.map Json.natural)),
    ("values", .array (vector.values.map Json.ofBinary32))] ++ labels)

end SparseVector

end TextVectors

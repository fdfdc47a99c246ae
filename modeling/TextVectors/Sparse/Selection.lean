import TextVectors.Sparse.Vector

namespace TextVectors.Sparse

/-! Selecting the entries of a sparse vector.

Entries above a threshold are candidates.  Of these the largest few are kept,
and the lower index wins among equal values.  The kept entries are put in order
of their indices.
-/

/-- The order by which candidates are cut: larger values first, then lower
indices. -/
def precedes (a b : Nat × Float32) : Bool :=
  if a.2 > b.2 then true else if b.2 > a.2 then false else a.1 ≤ b.1

/-- The largest `topK` candidates; zero keeps all of them. -/
def cut (candidates : List (Nat × Float32)) (topK : Nat) : List (Nat × Float32) :=
  if 0 < topK ∧ topK < candidates.length then (candidates.mergeSort precedes).take topK
  else candidates

def select (candidates : List (Nat × Float32)) (topK : Nat) : SparseVector :=
  .ofEntries ((cut candidates topK).mergeSort fun a b => a.1 ≤ b.1)

/-- The entries of a list whose value exceeds the threshold. -/
def above (threshold : Float32) (entries : List (Nat × Float32)) : List (Nat × Float32) :=
  entries.filter fun entry => entry.2 > threshold

def positions (dense : List Float32) : List (Nat × Float32) :=
  dense.zipIdx.map fun entry => (entry.2, entry.1)

def ofDense (dense : List Float32) (threshold : Float32) (topK : Nat) : SparseVector :=
  select (above threshold (positions dense)) topK

/-- A threshold must be a number that is not negative. -/
def checkThreshold (threshold : Float32) : Except InputFault Unit :=
  if threshold ≥ Binary32.zero then .ok () else .error (.badThreshold threshold)

/-- Raises the value of an index to the given one, or adds the index. -/
def raise (maxima : List (Nat × Float32)) (index : Nat) (value : Float32) :
    List (Nat × Float32) :=
  match maxima with
  | [] => [(index, value)]
  | (known, current) :: rest =>
      if known = index then (known, if value > current then value else current) :: rest
      else (known, current) :: raise rest index value

/-- Takes up windows from the given position on.  The first window that is not
valid is named. -/
def maximaFrom : Nat → List (Nat × Float32) → List SparseVector →
    Except EmbeddingError (List (Nat × Float32))
  | _, maxima, [] => .ok maxima
  | position, maxima, window :: rest =>
      match window.validate with
      | .error fault =>
          .error (.context s!"invalid sparse window {position}" (.invalidInput fault))
      | .ok () =>
          let raised := window.entries.foldl (fun known entry => raise known entry.1 entry.2) maxima
          maximaFrom (position + 1) raised rest

/-- Merges windows by the maximum of each index, and selects from the result. -/
def mergeWindows (windows : List SparseVector) (threshold : Float32) (topK : Nat) :
    Except EmbeddingError SparseVector := do
  (checkThreshold threshold).mapError .invalidInput
  let maxima ← maximaFrom 0 [] windows
  return select (above threshold maxima) topK

end TextVectors.Sparse

import TextVectors.Binary32
import TextVectors.Embedding.Error
import TextVectors.Json.Record
import TextVectors.Text.LetterCase
import TextVectors.TokenBuffers

namespace TextVectors

/-! Pooling: one vector per document from the vectors of its tokens.

The states of a batch lie row after row, in each row token after token.  All
arithmetic is binary32 in the order in which it is written here, apart from the
sum of squares of a norm, which is taken in the wider format.
-/

inductive Pooling where
  /-- Average of the token vectors, weighted by the mask. -/
  | mean
  /-- The vector of the first token. -/
  | cls
  /-- All token vectors, one after the other. -/
  | none
deriving Repr, DecidableEq, Inhabited

namespace Pooling

def default : Pooling := .mean

def name : Pooling → String
  | .mean => "mean"
  | .cls => "cls"
  | .none => "none"

def title : Pooling → String
  | .mean => "Mean"
  | .cls => "Cls"
  | .none => "None"

def ofName? (name : String) : Option Pooling :=
  [mean, cls, none].find? fun pooling => pooling.name == name

/-- Reads a name with blanks around it and letters of either case. -/
def ofText (text : String) : Except ConfigFault Pooling :=
  let name := String.ofList (Text.lowerAscii (Text.trim text.toList))
  match ofName? name with
  | some pooling => .ok pooling
  | Option.none => .error (.unknownPooling name)

def ofJson? (value : Json) : Option Pooling :=
  value.variantName?.bind ofName?

/-- Length of each result; it stays at the largest size instead of exceeding
it. -/
def outputDimension (pooling : Pooling) (sequenceLength hidden : Nat) : Nat :=
  match pooling with
  | .mean => hidden
  | .cls => hidden
  | .none => saturatingProduct sequenceLength hidden

/-- Least denominator of an average. -/
def denominatorFloor : Float32 := 1e-9

/-- Least norm to divide by. -/
def normFloor : Float32 := 1e-12

/-- Consecutive pieces of `size` entries; `count` of them. -/
def chunks (size : Nat) : Nat → List α → List (List α)
  | 0, _ => []
  | count + 1, entries => entries.take size :: chunks size count (entries.drop size)

/-- Adds a weighted token vector to a sum, component by component. -/
def addWeighted (weight : Float32) (sum token : List Float32) : List Float32 :=
  List.zipWith (fun total value => total + value * weight) sum token

/-- Sum of the token vectors with their weights, and the sum of the weights.
Tokens of weight zero are passed over without being looked at. -/
def weightedSum : List Float32 × Float32 → List (List Float32 × Int) → List Float32 × Float32
  | state, [] => state
  | (sum, denominator), (token, weight) :: rest =>
      if weight = 0 then weightedSum (sum, denominator) rest
      else
        let weight := Float32.ofInt weight
        weightedSum (addWeighted weight sum token, denominator + weight) rest

def meanRow (hidden : Nat) (tokens : List (List Float32)) (mask : List Int) : List Float32 :=
  let start := (List.replicate hidden Binary32.zero, Binary32.zero)
  let (sum, denominator) := weightedSum start (tokens.zip mask)
  let factor := 1 / Binary32.atLeast denominatorFloor denominator
  sum.map (· * factor)

/-- Sum of squares: each square is rounded to binary32 and then added in the
wider format. -/
def sumOfSquares (row : List Float32) : Float :=
  row.foldl (fun sum value => sum + Binary32.widen (value * value)) 0

/-- Divides a row by its Euclidean norm, or by the least norm. -/
def normalize (row : List Float32) : List Float32 :=
  let norm := Binary32.atLeast normFloor (Binary32.narrow (sumOfSquares row).sqrt)
  let factor := 1 / norm
  row.map (· * factor)

/-- The sizes must be positive and the buffers as long as they say. -/
def check (statesLength maskLength batch sequenceLength hidden : Nat) :
    Except InputFault Unit := do
  if batch = 0 then throw .batchZero
  if sequenceLength = 0 then throw .sequenceLengthZero
  if hidden = 0 then throw .dimensionZero
  let cells ← elementCount [batch, sequenceLength]
  if maskLength ≠ cells then throw (.lengthMismatch .attentionMask maskLength cells)
  let entries ← elementCount [batch, sequenceLength, hidden]
  if statesLength ≠ entries then throw (.lengthMismatch .hiddenState statesLength entries)

/-- The result for one row: its states token after token, and its mask. -/
def poolRow (pooling : Pooling) (sequenceLength hidden : Nat) (states : List Float32)
    (mask : List Int) : List Float32 :=
  match pooling with
  | .mean => meanRow hidden (chunks hidden sequenceLength states) mask
  | .cls => states.take hidden
  | .none => states

/-- Pools every row of a batch, and normalizes the results if asked to. -/
def pool (pooling : Pooling) (states : List Float32) (mask : List Int)
    (batch sequenceLength hidden : Nat) (l2Normalize : Bool) :
    Except InputFault (List (List Float32)) := do
  check states.length mask.length batch sequenceLength hidden
  let rows := List.zipWith (pooling.poolRow sequenceLength hidden)
    (chunks (sequenceLength * hidden) batch states) (chunks sequenceLength batch mask)
  return if l2Normalize then rows.map normalize else rows

end Pooling

end TextVectors

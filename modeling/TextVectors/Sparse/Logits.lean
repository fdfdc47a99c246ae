import TextVectors.Pooling
import TextVectors.Sparse.Selection

namespace TextVectors

/-! Sparse vectors from the logits of a model.

A model gives logits for every token or for every document.  Token logits are
reduced to the largest activation of each vocabulary entry over the tokens that
the mask lets through; document logits are taken as they are.
-/

inductive OutputLayout where
  | tokenLogits
  | documentLogits
deriving Repr, DecidableEq, Inhabited

namespace OutputLayout

def default : OutputLayout := .tokenLogits

def name : OutputLayout → String
  | .tokenLogits => "token_logits"
  | .documentLogits => "document_logits"

def title : OutputLayout → String
  | .tokenLogits => "TokenLogits"
  | .documentLogits => "DocumentLogits"

def ofName? (name : String) : Option OutputLayout :=
  [tokenLogits, documentLogits].find? fun layout => layout.name == name

/-- Reads a name with blanks around it and letters of either case. -/
def ofText (text : String) : Except ConfigFault OutputLayout :=
  let name := String.ofList (Text.lowerAscii (Text.trim text.toList))
  match ofName? name with
  | some layout => .ok layout
  | none => .error (.unknownLayout name)

def ofJson? (value : Json) : Option OutputLayout :=
  value.variantName?.bind ofName?

/-- Dimensions of the output; sizes beyond the range of dimensions wrap. -/
def outputShape (layout : OutputLayout) (batch sequenceLength vocabulary : Nat) : List Int :=
  match layout with
  | .tokenLogits => [wrapToSigned batch, wrapToSigned sequenceLength, wrapToSigned vocabulary]
  | .documentLogits => [wrapToSigned batch, wrapToSigned vocabulary]

end OutputLayout

structure SparsifyParams where
  layout : OutputLayout
  threshold : Float32
  topK : Nat
  /-- Activation `ln (1 + max 0 x)` instead of the logit itself. -/
  logActivation : Bool
deriving Repr, DecidableEq

namespace Sparse

/-- The larger of the value so far and the activation of a logit.  What is no
number, and with the logarithm what is not positive, changes nothing. -/
def raiseSlot (logActivation : Bool) (slot logit : Float32) : Float32 :=
  if logActivation then
    if logit ≤ Binary32.zero then slot
    else
      let value := Binary32.logOnePlus logit
      if value > slot then value else slot
  else if logit > slot then logit
  else slot

/-- Reduces token logits to one value per vocabulary entry; masked tokens are
passed over. -/
def reduceTokens (logActivation : Bool) :
    List Float32 → List (List Float32 × Int) → List Float32
  | slots, [] => slots
  | slots, (logits, mask) :: rest =>
      if mask = 0 then reduceTokens logActivation slots rest
      else reduceTokens logActivation (List.zipWith (raiseSlot logActivation) slots logits) rest

def activate (logActivation : Bool) (logit : Float32) : Float32 :=
  if logActivation then
    if logit ≤ Binary32.zero then Binary32.zero else Binary32.logOnePlus logit
  else logit

def tokenRow (params : SparsifyParams) (sequenceLength vocabulary : Nat)
    (logits : List Float32) (mask : List Int) : SparseVector :=
  let tokens := (Pooling.chunks vocabulary sequenceLength logits).zip mask
  let slots := List.replicate vocabulary Binary32.zero
  ofDense (reduceTokens params.logActivation slots tokens) params.threshold params.topK

def documentRow (params : SparsifyParams) (logits : List Float32) : SparseVector :=
  ofDense (logits.map (activate params.logActivation)) params.threshold params.topK

/-- The sizes must be positive, the threshold usable, and the buffers as long as
the sizes say. -/
def check (params : SparsifyParams)
    (outputLength maskLength batch sequenceLength vocabulary : Nat) :
    Except InputFault Unit := do
  if batch = 0 then throw .batchZero
  if sequenceLength = 0 then throw .sequenceLengthZero
  if vocabulary = 0 then throw .vocabularyZero
  checkThreshold params.threshold
  let cells ← elementCount [batch, sequenceLength]
  if maskLength ≠ cells then throw (.lengthMismatch .attentionMask maskLength cells)
  match params.layout with
  | .tokenLogits =>
      let entries ← elementCount [batch, sequenceLength, vocabulary]
      if outputLength ≠ entries then throw (.lengthMismatch .tokenLogits outputLength entries)
  | .documentLogits =>
      let entries ← elementCount [batch, vocabulary]
      if outputLength ≠ entries then throw (.lengthMismatch .documentLogits outputLength entries)

def sparsify (params : SparsifyParams) (output : List Float32) (mask : List Int)
    (batch sequenceLength vocabulary : Nat) : Except InputFault (List SparseVector) := do
  check params output.length mask.length batch sequenceLength vocabulary
  match params.layout with
  | .tokenLogits =>
      return List.zipWith (tokenRow params sequenceLength vocabulary)
        (Pooling.chunks (sequenceLength * vocabulary) batch output)
        (Pooling.chunks sequenceLength batch mask)
  | .documentLogits =>
      return (Pooling.chunks vocabulary batch output).map (documentRow params)

end Sparse

end TextVectors

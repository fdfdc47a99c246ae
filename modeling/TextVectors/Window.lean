import TextVectors.Embedding.Error
import TextVectors.Word

namespace TextVectors

/-! Windows of tokens: fixed-length slices of a document's encoding.

A long encoding is cut into windows that start every `stride` tokens, up to the
first window that reaches its end.  Ids, masks and type ids are widened to the
signed words that a model reads.
-/

/-- One window; type ids are present where the model reads them. -/
structure Window where
  ids : List Int
  mask : List Int
  types : Option (List Int)
deriving Repr, DecidableEq, Inhabited

namespace Encoding

/-- A mask or type ids are given for all tokens or not at all. -/
def check (encoding : Encoding) : Except InputFault Unit :=
  let tokens := encoding.ids.length
  if encoding.mask.length ≠ 0 ∧ encoding.mask.length ≠ tokens then
    .error (.partLength .mask encoding.mask.length tokens)
  else if encoding.types.length ≠ 0 ∧ encoding.types.length ≠ tokens then
    .error (.partLength .types encoding.types.length tokens)
  else .ok ()

/-- The encoding without its first tokens. -/
def drop (encoding : Encoding) (count : Nat) : Encoding where
  ids := encoding.ids.drop count
  mask := encoding.mask.drop count
  types := encoding.types.drop count

end Encoding

namespace Window

def widen (words : List Nat) : List Int :=
  words.map Int.ofNat

/-- The mask of ids that come without one: every id but zero counts. -/
def deriveMask (ids : List Int) : List Int :=
  ids.map fun id => if id = 0 then 0 else 1

/-- The first `length` entries, filled up with zeros. -/
def padded (length : Nat) (entries : List Int) : List Int :=
  entries.take length ++ List.replicate (length - entries.length) 0

def blank (length : Nat) (useTypes : Bool) : Window where
  ids := List.replicate length 0
  mask := List.replicate length 0
  types := if useTypes then some (List.replicate length 0) else none

/-- The tokens of a document, each part widened and the mask derived where it is
missing. -/
structure Tokens where
  ids : List Int
  mask : List Int
  types : List Int

def Tokens.ofEncoding (encoding : Encoding) : Tokens :=
  let ids := widen encoding.ids
  { ids
    mask := if encoding.mask.isEmpty then deriveMask ids else widen encoding.mask
    types := widen encoding.types }

/-- The window that starts at a token. -/
def Tokens.windowAt (tokens : Tokens) (length : Nat) (useTypes : Bool) (start : Nat) : Window where
  ids := padded length (tokens.ids.drop start)
  mask := padded length (tokens.mask.drop start)
  types := if useTypes then some (padded length (tokens.types.drop start)) else none

/-- The windows from a start on, `stride` apart, up to the first that reaches
the end. -/
def Tokens.windowsFrom (tokens : Tokens) (length stride : Nat) (useTypes : Bool) (start : Nat) :
    List Window :=
  let window := tokens.windowAt length useTypes start
  if start + length < tokens.ids.length ∧ 0 < stride then
    window :: tokens.windowsFrom length stride useTypes (start + stride)
  else [window]
termination_by tokens.ids.length - start

/-- Cuts an encoding into windows.  An encoding without tokens gives one window
of padding. -/
def split (encoding : Encoding) (length stride : Nat) (useTypes : Bool) :
    Except InputFault (List Window) := do
  if length = 0 then throw .sequenceLengthZero
  if stride = 0 ∨ stride > length then throw (.badStride length stride)
  encoding.check
  if encoding.ids.isEmpty then return [blank length useTypes]
  return (Tokens.ofEncoding encoding).windowsFrom length stride useTypes 0

end Window

end TextVectors

import TextVectors.Window

namespace TextVectors

/-! Token buffers: rows of equal length for ids, mask and, where the model reads
them, type ids.

Filling reports an error together with the buffers as they are then, because a
failure may leave rows that were already written.
-/

structure TokenBuffers where
  ids : List Int
  mask : List Int
  types : Option (List Int)
deriving Repr, DecidableEq

/-- The product of sizes, which must fit a size at every step. -/
def elementCount (sizes : List Nat) : Except InputFault Nat :=
  go 1 sizes
where
  go : Nat → List Nat → Except InputFault Nat
    | count, [] => .ok count
    | count, size :: rest =>
        if count * size < wordLimit then go (count * size) rest
        else .error (.sizeOverflow sizes)

namespace TokenBuffers

/-- All buffers must have the wanted number of cells. -/
def check (buffers : TokenBuffers) (expected : Nat) : Except InputFault Unit :=
  if buffers.ids.length ≠ expected ∨ buffers.mask.length ≠ expected then
    .error (.tokenBufferLength buffers.ids.length buffers.mask.length expected)
  else
    match buffers.types with
    | some types =>
        if types.length ≠ expected then .error (.typeBufferLength types.length expected)
        else .ok ()
    | none => .ok ()

def zeroed (cells : List Int) : List Int :=
  List.replicate cells.length 0

def clear (buffers : TokenBuffers) : TokenBuffers where
  ids := zeroed buffers.ids
  mask := zeroed buffers.mask
  types := buffers.types.map zeroed

/-- Writes entries over the cells from a row's start on. -/
def writeRow (cells : List Int) (length row : Nat) (entries : List Int) : List Int :=
  cells.take (row * length) ++ entries ++ cells.drop (row * length + entries.length)

/-- Writes one window into a row.  The ids and the mask are written before the
type ids are looked at. -/
def putWindow (buffers : TokenBuffers) (length row : Nat) (window : Window) :
    Except InputFault Unit × TokenBuffers :=
  if window.ids.length ≠ length ∨ window.mask.length ≠ length then
    (.error (.windowLength row window.ids.length window.mask.length length), buffers)
  else
    let written := { buffers with
      ids := writeRow buffers.ids length row window.ids
      mask := writeRow buffers.mask length row window.mask }
    match buffers.types, window.types with
    | some types, some entries =>
        if entries.length = length then
          (.ok (), { written with types := some (writeRow types length row entries) })
        else (.error (.windowTypeLength row entries.length length), written)
    | some _, none => (.error (.windowWithoutTypes row), written)
    | none, some _ => (.error (.windowWithTypes row), written)
    | none, none => (.ok (), written)

/-- Writes windows into the rows from `row` on, up to the first that does not
fit. -/
def putWindows (length : Nat) :
    Nat → TokenBuffers → List Window → Except InputFault Unit × TokenBuffers
  | _, buffers, [] => (.ok (), buffers)
  | row, buffers, window :: rest =>
      match buffers.putWindow length row window with
      | (.ok (), written) => putWindows length (row + 1) written rest
      | failed => failed

/-- Fills the buffers with one window per row. -/
def fillWindows (buffers : TokenBuffers) (length : Nat) (windows : List Window) :
    Except InputFault Unit × TokenBuffers :=
  let checked : Except InputFault Unit := do
    if windows.isEmpty then throw .noWindows
    buffers.check (← elementCount [windows.length, length])
  match checked with
  | .error fault => (.error fault, buffers)
  | .ok () => putWindows length 0 buffers.clear windows

/-- Every encoding must pass its check; the first that does not is named. -/
def checkEncodings : Nat → List Encoding → Except EmbeddingError Unit
  | _, [] => .ok ()
  | position, encoding :: rest =>
      match encoding.check with
      | .error fault => .error (.context s!"encoding {position}" (.invalidInput fault))
      | .ok () => checkEncodings (position + 1) rest

/-- The cells of one row. -/
def readRow (cells : List Int) (length row : Nat) : List Int :=
  (cells.drop (row * length)).take length

/-- Writes the first tokens of an encoding into a row of zeros.  A missing mask
is derived from the ids that the row then holds. -/
def putEncoding (buffers : TokenBuffers) (length row : Nat) (encoding : Encoding) :
    TokenBuffers :=
  let ids := writeRow buffers.ids length row ((Window.widen encoding.ids).take length)
  let mask :=
    if encoding.mask.isEmpty then Window.deriveMask (readRow ids length row)
    else (Window.widen encoding.mask).take length
  { ids
    mask := writeRow buffers.mask length row mask
    types := buffers.types.map fun types =>
      writeRow types length row ((Window.widen encoding.types).take length) }

def putEncodings (length : Nat) : Nat → TokenBuffers → List Encoding → TokenBuffers
  | _, buffers, [] => buffers
  | row, buffers, encoding :: rest =>
      putEncodings length (row + 1) (buffers.putEncoding length row encoding) rest

/-- Fills the buffers with one encoding per row.  On an error nothing is
written. -/
def fillEncodings (buffers : TokenBuffers) (length : Nat) (encodings : List Encoding) :
    Except EmbeddingError Unit × TokenBuffers :=
  let checked : Except EmbeddingError Unit := do
    let total ← (elementCount [encodings.length, length]).mapError .invalidInput
    (buffers.check total).mapError .invalidInput
    checkEncodings 0 encodings
  match checked with
  | .error error => (.error error, buffers)
  | .ok () => (.ok (), putEncodings length 0 buffers.clear encodings)

end TokenBuffers

end TextVectors

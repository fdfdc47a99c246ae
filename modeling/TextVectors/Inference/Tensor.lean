import TextVectors.Inference.Runtime

namespace TextVectors.Inference

/-! Tensors: shaped buffers that a native value points at.

A tensor refers to its runtime as long as its value is live.  Destroying it
releases the value and empties the buffer.
-/

structure Tensor (element : ElementType) where
  shape : Shape
  cells : List element.Cell
  value : Option Handle
  runtime : Option Runtime

/-- Kinds of memory that values are made from, by their native numbers. -/
def arenaAllocator : Nat := 1

def defaultMemory : Nat := 0

namespace Tensor

variable {element : ElementType}

def isDestroyed (tensor : Tensor element) : Bool :=
  tensor.value.isNone

def contents (tensor : Tensor element) : Contents :=
  ⟨element, tensor.cells⟩

/-- A native value over a buffer.  The memory description is released again
whether or not the value comes into being. -/
def createValue (element : ElementType) (shape : Shape) (length : Nat) :
    Action RuntimeError Handle := do
  match ← Engine.request (.createMemoryInfo arenaAllocator defaultMemory) with
  | none => throw (.native "CreateCpuMemoryInfo" .fail "returned null memory info")
  | some info =>
      let result ← attempt (ε := RuntimeError)
        (Engine.request (.createValue info (length * element.width) shape.dims element))
      Engine.release info
      match result with
      | .error error => throw error
      | .ok none => throw (.native "CreateTensorWithDataAsOrtValue" .fail "returned null value")
      | .ok (some value) => return value

/-- A tensor over the given cells, which must be as many as the shape needs. -/
def create (runtime : Runtime) (shape : Shape) (cells : List element.Cell) :
    Action RuntimeError (Tensor element) := do
  let expected ← mapFailure .invalidShape (ofExcept shape.elementCount)
  if cells.length ≠ expected then
    throw (.dataLengthMismatch shape.text expected cells.length)
  let value ← createValue element shape cells.length
  runtime.retain
  return { shape, cells, value := some value, runtime := some runtime }

/-- A tensor filled with zeros. -/
def zeros (element : ElementType) (runtime : Runtime) (shape : Shape) :
    Action RuntimeError (Tensor element) := do
  let count ← mapFailure .invalidShape (ofExcept shape.elementCount)
  create runtime shape (List.replicate count element.zeroCell)

def destroyed : Tensor element :=
  { shape := ⟨[]⟩, cells := [], value := none, runtime := none }

/-- Releases the value and gives up the runtime; a second time it does nothing. -/
def destroy (tensor : Tensor element) : Step (Tensor element) := do
  match tensor.value, tensor.runtime with
  | some value, some runtime =>
      Engine.release value
      runtime.letGo
  | _, _ => pure ()
  return destroyed

/-- Ends a tensor that may still be live. -/
def discard (tensor : Tensor element) : Step Unit := do
  let _ ← tensor.destroy
  if tensor.value.isSome && tensor.runtime.isSome then
    note .debug s!"Tensor {element.shortName} released on drop"

/-- Writes one cell; a position outside the buffer changes nothing. -/
def set (tensor : Tensor element) (position : Nat) (cell : element.Cell) : Tensor element :=
  { tensor with cells := tensor.cells.set position cell }

/-- The tensor after a run in which it was the output at a position. -/
def receive (tensor : Tensor element) (effect : RunEffect) (output : Nat) : Tensor element :=
  { tensor with cells := effect.apply output tensor.cells }

def description (tensor : Tensor element) : String :=
  Text.braced "Tensor" [
    ("element", element.name),
    ("shape", s!"Shape({tensor.shape.text})"),
    ("live", toString tensor.value.isSome)]

end Tensor

structure AnyTensor where
  element : ElementType
  tensor : Tensor element

end TextVectors.Inference

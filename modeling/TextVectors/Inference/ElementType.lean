namespace TextVectors.Inference

/-! Element types of tensors.

Each type has the number under which the native library knows it, the width of
one element in bytes, and the values that a buffer of that type holds.  Integer
elements are integers; what range a buffer is filled from is the caller's
business.
-/

inductive ElementType where
  | float
  | uint8
  | int8
  | uint16
  | int16
  | int32
  | int64
  | bool
  | double
  | uint32
  | uint64
deriving Repr, DecidableEq, Inhabited

namespace ElementType

def number : ElementType → Nat
  | .float => 1
  | .uint8 => 2
  | .int8 => 3
  | .uint16 => 4
  | .int16 => 5
  | .int32 => 6
  | .int64 => 7
  | .bool => 9
  | .double => 11
  | .uint32 => 12
  | .uint64 => 13

def width : ElementType → Nat
  | .float => 4
  | .uint8 => 1
  | .int8 => 1
  | .uint16 => 2
  | .int16 => 2
  | .int32 => 4
  | .int64 => 8
  | .bool => 1
  | .double => 8
  | .uint32 => 4
  | .uint64 => 8

def name : ElementType → String
  | .float => "Float"
  | .uint8 => "Uint8"
  | .int8 => "Int8"
  | .uint16 => "Uint16"
  | .int16 => "Int16"
  | .int32 => "Int32"
  | .int64 => "Int64"
  | .bool => "Bool"
  | .double => "Double"
  | .uint32 => "Uint32"
  | .uint64 => "Uint64"

/-- Short name of the type, with its width in bits. -/
def shortName : ElementType → String
  | .float => "f32"
  | .uint8 => "u8"
  | .int8 => "i8"
  | .uint16 => "u16"
  | .int16 => "i16"
  | .int32 => "i32"
  | .int64 => "i64"
  | .bool => "bool"
  | .double => "f64"
  | .uint32 => "u32"
  | .uint64 => "u64"

def all : List ElementType :=
  [.float, .uint8, .int8, .uint16, .int16, .int32, .int64, .bool, .double, .uint32, .uint64]

def ofShortName? (name : String) : Option ElementType :=
  all.find? fun element => element.shortName == name

/-- The values of one element. -/
@[reducible]
def Cell : ElementType → Type
  | .float => Float32
  | .double => Float
  | .bool => Bool
  | _ => Int

/-- What a fresh buffer is filled with. -/
def zeroCell : (element : ElementType) → element.Cell
  | .float => Float32.ofBits 0
  | .double => Float.ofBits 0
  | .bool => false
  | .uint8 => (0 : Int)
  | .int8 => (0 : Int)
  | .uint16 => (0 : Int)
  | .int16 => (0 : Int)
  | .int32 => (0 : Int)
  | .int64 => (0 : Int)
  | .uint32 => (0 : Int)
  | .uint64 => (0 : Int)

end ElementType

structure Contents where
  element : ElementType
  cells : List element.Cell

end TextVectors.Inference

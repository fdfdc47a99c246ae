import TextVectors.Text.Cut
import TextVectors.Text.Numeral
import TextVectors.Text.Quoted
import TextVectors.Word

namespace TextVectors

/-! Tensor shapes: lists of dimensions, their text and the number of elements.

A dimension is a signed machine word.  The number of elements is the exact
product of the dimensions, and counting fails where a dimension is negative or
the product does not fit a size.
-/

structure Shape where
  dims : List Int
deriving Repr, DecidableEq, Inhabited

namespace Shape

def rank (shape : Shape) : Nat :=
  shape.dims.length

def isEmpty (shape : Shape) : Bool :=
  shape.dims.isEmpty

/-- The dimensions between brackets, separated by a comma and a space. -/
def text (shape : Shape) : String :=
  Text.bracketed (shape.dims.map toString)

end Shape

/-- Why a shape cannot be used or read. -/
inductive ShapeFault where
  | negative (dim : Int) (shape : Shape)
  | overflow (shape : Shape)
  | unreadable (part text : String)
  | described (text : String)
deriving Repr, DecidableEq

def ShapeFault.message : ShapeFault → String
  | .negative dim shape => s!"negative dimension {dim} in {shape.text}"
  | .overflow shape => s!"{shape.text} overflows"
  | .unreadable part text => s!"bad dimension {Text.quoted part} in {Text.quoted text}"
  | .described text => text

namespace Shape

/-- Multiplies dimensions from left to right into a count and stops at the first
that is negative or takes the count out of range. -/
def countFrom (shape : Shape) : Nat → List Int → Except ShapeFault Nat
  | count, [] => .ok count
  | count, dim :: rest =>
      if dim < 0 then .error (.negative dim shape)
      else if count * dim.toNat < wordLimit then countFrom shape (count * dim.toNat) rest
      else .error (.overflow shape)

/-- The number of elements; a shape without dimensions has one. -/
def elementCount (shape : Shape) : Except ShapeFault Nat :=
  shape.countFrom 1 shape.dims

/-- A dimension as a text gives it: not negative and below `signedLimit`. -/
def dimension? (part : List Char) : Option Int :=
  (Text.signedNumeral? part).filter fun dim => decide (0 ≤ dim ∧ dim < signedLimit)

def dropBrackets (text : List Char) : List Char :=
  let opened := text.dropWhile (· == '[')
  (opened.reverse.dropWhile (· == ']')).reverse

/-- The part of a shape text between its brackets. -/
def inner (text : List Char) : List Char :=
  Text.trim (dropBrackets (Text.trim text))

/-- Reads the parts in order and names the first that is no dimension. -/
def readParts (text : String) : List (List Char) → Except ShapeFault (List Int)
  | [] => .ok []
  | part :: rest =>
      match dimension? (Text.trim part) with
      | none => .error (.unreadable (String.ofList (Text.trim part)) text)
      | some dim => (readParts text rest).map (dim :: ·)

/-- Reads dimensions separated by `,` or `x`, with or without brackets around
them; an empty text is the shape without dimensions. -/
def ofText (text : String) : Except ShapeFault Shape :=
  match inner text.toList with
  | [] => .ok ⟨[]⟩
  | parts => (readParts text (Text.cut (fun c => c == ',' || c == 'x') parts)).map Shape.mk

end Shape

end TextVectors

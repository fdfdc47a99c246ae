import TextVectors.Json.Basic
import TextVectors.Binary32
import TextVectors.Word
import TextVectors.Decimal.Style

namespace TextVectors

/-! Numbers of a JSON text as values.

An integer is a number without fraction and exponent, and negative zero is no
integer.  Any number can be read as binary32: an integer that fits a machine
word is rounded directly, everything else is first read in the wider format.
There the significand is made of the leading digits that fit a word, later
digits only count as places, and a power of ten is multiplied or divided once.
-/

namespace JsonNumber

def valueOf (digits : List Digit) : Nat :=
  digits.foldl (fun value digit => value * 10 + digit.val) 0

def integer? (number : JsonNumber) : Option Int :=
  match number.fraction, number.exponent with
  | [], none =>
      let value := valueOf number.whole
      if number.negative then if value = 0 then none else some (-(value : Int))
      else some value
  | _, _ => none

/-- Appends digits to a significand as long as it fits a machine word; the
number of digits taken is returned with it. -/
def takeDigits : Nat → List Digit → Nat × Nat
  | significand, [] => (significand, 0)
  | significand, digit :: rest =>
      if significand * 10 + digit.val < wordLimit then
        let (result, taken) := takeDigits (significand * 10 + digit.val) rest
        (result, taken + 1)
      else (significand, 0)

/-- `value / 10 ^ places`, in steps of 308 places. -/
def scaleDown (value : Float) (places : Nat) : Float :=
  if places ≤ 308 then value / Float.ofScientific 1 false places
  else if value == 0 then value
  else scaleDown (value / Float.ofScientific 1 false 308) (places - 308)
termination_by places

/-- `significand * 10 ^ exponent` in the wider format, or nothing when that is
too large for it. -/
def scaled? (significand : Nat) (exponent : Int) : Option Float :=
  let value := Float.ofNat significand
  if exponent < 0 then some (scaleDown value exponent.natAbs)
  else if exponent ≤ 308 then
    let product := value * Float.ofScientific 1 false exponent.toNat
    if product.isInf then none else some product
  else if significand = 0 then some value
  else none

/-- From here on only the sign of an exponent still matters. -/
def exponentLimit : Nat := halfWordLimit / 2

/-- The exponent that is written, kept within the limit. -/
def writtenExponent (number : JsonNumber) : Int :=
  match number.exponent with
  | none => 0
  | some (negative, digits) =>
      let value := min (valueOf digits) exponentLimit
      if negative then -value else value

/-- The number in the wider format. -/
def wide? (number : JsonNumber) : Option Float :=
  let (significand, taken) := takeDigits 0 number.whole
  let (significand, places) := takeDigits significand number.fraction
  let dropped := number.whole.length - taken
  let value := scaled? significand ((dropped : Int) - places + number.writtenExponent)
  if number.negative then value.map Neg.neg else value

def binary32? (number : JsonNumber) : Option Float32 :=
  match number.integer? with
  | some value =>
      if 0 ≤ value ∧ value < wordLimit then some (Float32.ofNat value.toNat)
      else if -(signedLimit : Int) ≤ value ∧ value < 0 then some (Float32.ofInt value)
      else number.wide?.map Binary32.narrow
  | none => number.wide?.map Binary32.narrow

/-- Lays out digits whose first one has the exponent `leading`: positionally
from the sixth place behind the point up to thirteen whole digits, otherwise
with an exponent.  A whole number keeps one zero behind the point. -/
def ofDigits (negative : Bool) (digits : List Digit) (leading : Int) : JsonNumber :=
  if -6 ≤ leading ∧ leading < 0 then
    ⟨negative, [Json.zeroDigit],
      List.replicate (-leading - 1).toNat Json.zeroDigit ++ digits, none⟩
  else if 0 ≤ leading ∧ leading ≤ 12 then
    let places := leading.toNat + 1
    let whole := digits.take places ++ List.replicate (places - digits.length) Json.zeroDigit
    let fraction := if digits.length ≤ places then [Json.zeroDigit] else digits.drop places
    ⟨negative, whole, fraction, none⟩
  else
    ⟨negative, digits.take 1, digits.drop 1,
      some (decide (leading < 0), Json.digitsOf leading.natAbs)⟩

/-- A finite number with the fewest digits that identify it. -/
def ofBinary32 (x : Float32) : JsonNumber :=
  let d := Decimal.digitsOf .toEven x
  ofDigits (x.toBits >>> 31 == 1) (Json.digitsOf d.digits) (Decimal.leadingExponent d)

end JsonNumber

namespace Json

def natural? (limit : Nat) : Json → Option Nat
  | .number value =>
      match value.integer? with
      | some n => if 0 ≤ n ∧ n < limit then some n.toNat else none
      | none => none
  | _ => none

def binary32? : Json → Option Float32
  | .number value => value.binary32?
  | _ => none

def bool? : Json → Option Bool
  | .bool value => some value
  | _ => none

def text? : Json → Option String
  | .string text => text
  | _ => none

/-- The elements of an array, each of them read. -/
def listOf? (read : Json → Option α) : Json → Option (List α)
  | .array elements => elements.mapM read
  | _ => none

/-- Only finite numbers have a written form; the others are written as null. -/
def ofBinary32 (x : Float32) : Json :=
  if x.isNaN || x.isInf then .null else .number (.ofBinary32 x)

end Json

end TextVectors

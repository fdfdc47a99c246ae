namespace TextVectors.Binary32

/-! Binary32 numbers: the operations that the number type of core leaves out.

Conversions between the two widths are written with core's description of
numbers as sign, significand and exponent: the value is taken apart and rounded
once to the other format.  Natural logarithms are taken in the wider format.
-/

open Float.Model

/-- Rounds the described number to a format. -/
def roundTo (format : Format) : UnpackedFloat → UnpackedFloat
  | .finite sign significand exponent _ => .round format sign significand exponent
  | special => special

/-- The same number in the wider format. -/
def widen (x : Float32) : Float :=
  .ofModel (.pack (roundTo Format.binary64 x.toModel.unpack))

/-- The nearest number of the narrower format, ties to the even significand. -/
def narrow (x : Float) : Float32 :=
  .ofModel (.pack (roundTo Format.binary32 x.toModel.unpack))

/-- The larger of a number and a bound; the bound when the number is not one. -/
def atLeast (bound x : Float32) : Float32 :=
  if x.isNaN then bound else if x < bound then bound else x

/-- The number below which `ln (1 + x)` rounds to `x` itself. -/
def tinyLimit : Float32 :=
  Float32.ofBits 0x32800000

/-- The natural logarithm of `1 + x` for positive `x`.  From the limit on,
`1 + x` is exact in the wider format up to where its last places no longer
matter.  What is no number stays as it is. -/
def logOnePlus (x : Float32) : Float32 :=
  if x ≥ tinyLimit then narrow (Float.log (1 + widen x)) else x

/-- Value zero with positive sign. -/
def zero : Float32 :=
  Float32.ofBits 0

end TextVectors.Binary32

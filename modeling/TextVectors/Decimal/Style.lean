import TextVectors.Decimal.Shortest

namespace TextVectors.Decimal

/-! The written form of a binary32 number.

The digits are always the fewest that identify the number; a style fixes how
they are laid out.
-/

/-- How selected digits are laid out.  Numbers whose leading digit has a decimal
exponent in `plain` are written positionally, all others with an exponent. -/
structure Style where
  plain : Option (Int × Int)
  /-- A whole number is written with a fraction of one zero. -/
  pointZero : Bool
  tie : Tie
  notANumber : String
  infinity : String
deriving Repr

/-- Numbers inside messages: positional whatever their size. -/
def Style.message : Style where
  plain := none
  pointZero := false
  tie := .up
  notANumber := "NaN"
  infinity := "inf"

def Style.description : Style where
  plain := some (-4, 15)
  pointZero := true
  tie := .up
  notANumber := "NaN"
  infinity := "inf"

def zeros (count : Nat) : List Char :=
  List.replicate count '0'

/-- Positional form of digits whose value is `digits * 10 ^ exponent`. -/
def positional (pointZero : Bool) (digits : List Char) (exponent : Int) : List Char :=
  if exponent ≥ 0 then
    digits ++ zeros exponent.toNat ++ (if pointZero then ['.', '0'] else [])
  else
    let places := (-exponent).toNat
    if places < digits.length then
      digits.take (digits.length - places) ++ '.' :: digits.drop (digits.length - places)
    else
      '0' :: '.' :: zeros (places - digits.length) ++ digits

/-- Form with one digit before the point and an exponent. -/
def scientific (digits : List Char) (leading : Int) : List Char :=
  let fraction := match digits.drop 1 with
    | [] => []
    | rest => '.' :: rest
  let sign := if leading < 0 then ['-'] else []
  digits.take 1 ++ fraction ++ 'e' :: sign ++ (Nat.toDigits 10 leading.natAbs)

/-- The exponent of the leading digit of a number with these digits. -/
def leadingExponent (d : Digits) : Int :=
  d.exponent + ((Nat.toDigits 10 d.digits).length - 1 : Nat)

def Style.layout (style : Style) (d : Digits) : List Char :=
  let digits := Nat.toDigits 10 d.digits
  let leading := leadingExponent d
  let plain := match style.plain with
    | none => true
    | some (low, high) => decide (low ≤ leading ∧ leading ≤ high)
  if plain then positional style.pointZero digits d.exponent
  else scientific digits leading

/-- The digits of a number; zero has the single digit zero. -/
def digitsOf (tie : Tie) (x : Float32) : Digits :=
  let bits := x.toBits &&& 0x7FFFFFFF
  if bits == 0 then ⟨0, 0⟩ else (Magnitude.ofBits bits).shortest tie

/-- The written form of a number under a style. -/
def Style.render (style : Style) (x : Float32) : String :=
  let sign := if x.toBits >>> 31 == 1 then "-" else ""
  if x.isNaN then style.notANumber
  else if x.isInf then sign ++ style.infinity
  else sign ++ String.ofList (style.layout (digitsOf style.tie x))

end TextVectors.Decimal

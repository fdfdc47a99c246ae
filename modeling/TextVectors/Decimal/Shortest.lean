namespace TextVectors.Decimal

/-! The fewest decimal digits that identify a binary number.

A positive finite number `significand * 2 ^ exponent` stands for the interval of
reals that round to it; the ends belong to the interval exactly when the
significand is even.  The selected decimal lies in that interval, no decimal
with fewer digits does, and among those with equally few digits it is the
nearest one.  All comparisons are exact comparisons of natural numbers.
-/

structure Magnitude where
  significand : Nat
  exponent : Int
  /-- The neighbour below is half as far away as the neighbour above. -/
  narrowBelow : Bool
deriving Repr, DecidableEq

/-- A decimal number `digits * 10 ^ exponent`. -/
structure Digits where
  digits : Nat
  exponent : Int
deriving Repr, DecidableEq

/-- Which of two equally near candidates is taken. -/
inductive Tie where
  | toEven
  | up
deriving Repr, DecidableEq

/-- A power of ten; negative exponents count as zero. -/
def tenTo (exponent : Int) : Nat :=
  Nat.pow 10 exponent.toNat

/-- A power of two; negative exponents count as zero. -/
def twoTo (exponent : Int) : Nat :=
  Nat.pow 2 exponent.toNat

/-- Compares `a * 10 ^ i` with `b * 2 ^ j`. -/
def compareScaled (a : Nat) (i : Int) (b : Nat) (j : Int) : Ordering :=
  compare (a * tenTo i * twoTo (-j)) (b * twoTo j * tenTo (-i))

/-- The value read as a binary number of 24 significant bits is this one again.
The ends of the interval are given in quarters of the last binary place. -/
def Magnitude.readsBack (x : Magnitude) (d : Digits) : Bool :=
  let lower := if x.narrowBelow then 4 * x.significand - 1 else 4 * x.significand - 2
  let upper := 4 * x.significand + 2
  let closed := x.significand % 2 == 0
  let low := compareScaled d.digits d.exponent lower (x.exponent - 2)
  let high := compareScaled d.digits d.exponent upper (x.exponent - 2)
  (low == .gt || (closed && low == .eq)) && (high == .lt || (closed && high == .eq))

/-- The least power of ten above the number, searched from the smallest binary32
number up to the largest. -/
def Magnitude.scale (x : Magnitude) : Int :=
  let candidate (i : Nat) : Int := i - 45
  let above (i : Nat) := compareScaled 1 (candidate i) x.significand x.exponent == .gt
  match (List.range 86).find? above with
  | some i => candidate i
  | none => 41

/-- The greatest multiple of `10 ^ place` not above the number, in units of that
place. -/
def Magnitude.floorAt (x : Magnitude) (place : Int) : Nat :=
  (x.significand * twoTo x.exponent * tenTo (-place)) / (twoTo (-x.exponent) * tenTo place)

/-- The nearer of `lower` and `lower + 1` at a decimal place. -/
def Magnitude.nearer (x : Magnitude) (tie : Tie) (lower : Nat) (place : Int) : Nat :=
  match compareScaled (2 * lower + 1) place (2 * x.significand) x.exponent with
  | .gt => lower
  | .lt => lower + 1
  | .eq =>
      match tie with
      | .up => lower + 1
      | .toEven => if lower % 2 == 0 then lower else lower + 1

/-- The candidate at one decimal place, if one of the two neighbours of the
number there reads back. -/
def Magnitude.candidateAt (x : Magnitude) (tie : Tie) (place : Int) : Option Digits :=
  let lower := x.floorAt place
  match x.readsBack ⟨lower, place⟩, x.readsBack ⟨lower + 1, place⟩ with
  | true, true => some ⟨x.nearer tie lower place, place⟩
  | true, false => some ⟨lower, place⟩
  | false, true => some ⟨lower + 1, place⟩
  | false, false => none

/-- Moves trailing zeros of the digits into the exponent. -/
def stripZeros : Nat → Digits → Digits
  | 0, d => d
  | fuel + 1, d =>
      if d.digits % 10 == 0 ∧ d.digits ≠ 0 then
        stripZeros fuel ⟨d.digits / 10, d.exponent + 1⟩
      else d

/-- The exact decimal value. -/
def Magnitude.exact (x : Magnitude) : Digits :=
  if x.exponent < 0 then ⟨x.significand * Nat.pow 5 (-x.exponent).toNat, x.exponent⟩
  else ⟨x.significand * twoTo x.exponent, 0⟩

/-- The fewest digits, tried from one digit up to nine. -/
def Magnitude.shortest (x : Magnitude) (tie : Tie) : Digits :=
  let scale := x.scale
  let found := (List.range 9).findSome? fun n : Nat => x.candidateAt tie (scale - ((n : Int) + 1))
  stripZeros 60 (found.getD x.exact)

/-- The magnitude of a finite nonzero binary32 number given by its bits. -/
def Magnitude.ofBits (bits : UInt32) : Magnitude :=
  let biased := ((bits >>> 23) &&& 0xFF).toNat
  let fraction := (bits &&& 0x7FFFFF).toNat
  if biased == 0 then ⟨fraction, -149, false⟩
  else ⟨twoTo 23 + fraction, (biased : Int) - 150, fraction == 0 && biased > 1⟩

end TextVectors.Decimal

namespace TextVectors.Text

/-! Decimal integers as they are read from a text.

A numeral is one or more ASCII digits; a signed numeral may have one `+` or `-`
in front.  Reading is exact, and the caller states the range it accepts.
-/

def digitValue? (c : Char) : Option Nat :=
  if '0' ≤ c ∧ c ≤ '9' then some (c.toNat - '0'.toNat) else none

/-- Continues a number whose digits so far are worth `value`. -/
def continueNumeral? (value : Nat) : List Char → Option Nat
  | [] => some value
  | c :: rest => do
      let digit ← digitValue? c
      continueNumeral? (value * 10 + digit) rest

/-- The value of a nonempty list of ASCII digits. -/
def numeral? : List Char → Option Nat
  | [] => none
  | digits => continueNumeral? 0 digits

/-- A numeral with an optional sign. -/
def signedNumeral? : List Char → Option Int
  | '-' :: digits => (numeral? digits).map fun value => -(value : Int)
  | '+' :: digits => (numeral? digits).map Int.ofNat
  | digits => (numeral? digits).map Int.ofNat

/-- A numeral with an optional `+`, at most `limit`. -/
def naturalUpTo? (limit : Nat) (text : List Char) : Option Nat :=
  let digits := match text with
    | '+' :: rest => rest
    | _ => text
  (numeral? digits).filter (· ≤ limit)

end TextVectors.Text

namespace TextVectors

/-! Data files: the tree of a JSON text.

The tree keeps what the text says: members in their order, repeated names, and
numbers digit by digit.  What a repeated name or a number's size means is
decided by the record that is read from the tree.
-/

abbrev Digit := Fin 10

/-- A number as it is written: whole digits, fraction digits and, if present, an
exponent with its sign and digits. -/
structure JsonNumber where
  negative : Bool
  whole : List Digit
  fraction : List Digit
  exponent : Option (Bool × List Digit)
deriving Repr, DecidableEq

/-- A string literal denotes a text unless an escape in it names one half of a
surrogate pair alone. -/
abbrev JsonText := Option String

inductive Json where
  | null
  | bool (value : Bool)
  | number (value : JsonNumber)
  | string (text : JsonText)
  | array (elements : List Json)
  | object (members : List (JsonText × Json))
deriving Repr, Inhabited

namespace Json

def text (value : String) : Json :=
  .string (some value)

/-- The digit that a character between `0` and `9` stands for. -/
def digitOfChar (c : Char) : Digit :=
  Fin.ofNat 10 (c.toNat - '0'.toNat)

def zeroDigit : Digit :=
  digitOfChar '0'

def digitsOf (n : Nat) : List Digit :=
  (Nat.toDigits 10 n).map digitOfChar

def natural (n : Nat) : Json :=
  .number ⟨false, digitsOf n, [], none⟩

def integer (n : Int) : Json :=
  .number ⟨decide (n < 0), digitsOf n.natAbs, [], none⟩

/-- An object whose names are texts. -/
def record (members : List (String × Json)) : Json :=
  .object (members.map fun member => (some member.1, member.2))

/-- The value of the first member of that name. -/
def member? (name : String) : Json → Option Json
  | .object members => (members.find? fun member => member.1 == some name).map (·.2)
  | _ => none

end Json

end TextVectors

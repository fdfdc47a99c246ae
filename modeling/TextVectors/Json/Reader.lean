import TextVectors.Json.Basic
import TextVectors.Text.Cut

namespace TextVectors.Json

/-! Reading a JSON text.

The reader accepts exactly the JSON grammar: no leading zeros, no bare control
characters in strings, nothing but white space around the value.  Nested values
are read with a count of the characters left as bound, and every level of
nesting uses up at least one of them.
-/

def isBlank (c : Char) : Bool :=
  c == ' ' || c == '\n' || c == '\t' || c == '\r'

def skipBlanks (text : List Char) : List Char :=
  text.dropWhile isBlank

def digit? (c : Char) : Option Digit :=
  if '0' ≤ c ∧ c ≤ '9' then some (digitOfChar c) else none

/-- The longest run of digits in front, and the rest. -/
def digitRun : List Char → List Digit × List Char
  | [] => ([], [])
  | c :: rest =>
      match digit? c with
      | some digit => let (digits, after) := digitRun rest; (digit :: digits, after)
      | none => ([], c :: rest)

/-- The whole part: a single zero, or digits that do not begin with zero. -/
def readWhole (text : List Char) : Option (List Digit × List Char) :=
  match digitRun text with
  | ([], _) => none
  | (digits, rest) =>
      if digits.head? = some zeroDigit ∧ digits.length > 1 then none else some (digits, rest)

/-- A fraction needs a digit behind the point. -/
def readFraction : List Char → Option (List Digit × List Char)
  | '.' :: rest =>
      match digitRun rest with
      | ([], _) => none
      | (digits, rest) => some (digits, rest)
  | text => some ([], text)

def readExponentDigits (negative : Bool) (text : List Char) :
    Option (Option (Bool × List Digit) × List Char) :=
  match digitRun text with
  | ([], _) => none
  | (digits, rest) => some (some (negative, digits), rest)

def readExponent : List Char → Option (Option (Bool × List Digit) × List Char)
  | c :: rest =>
      if c = 'e' ∨ c = 'E' then
        match rest with
        | '-' :: rest => readExponentDigits true rest
        | '+' :: rest => readExponentDigits false rest
        | rest => readExponentDigits false rest
      else some (none, c :: rest)
  | [] => some (none, [])

def readUnsigned (negative : Bool) (text : List Char) : Option (JsonNumber × List Char) := do
  let (whole, rest) ← readWhole text
  let (fraction, rest) ← readFraction rest
  let (exponent, rest) ← readExponent rest
  return (⟨negative, whole, fraction, exponent⟩, rest)

def readNumber : List Char → Option (JsonNumber × List Char)
  | '-' :: rest => readUnsigned true rest
  | text => readUnsigned false text

/-- One piece of a string literal: a character, or half of a surrogate pair. -/
inductive Piece where
  | char (value : Char)
  | half (unit : Nat)
deriving Repr, DecidableEq

def hexValue? (c : Char) : Option Nat :=
  if '0' ≤ c ∧ c ≤ '9' then some (c.toNat - '0'.toNat)
  else if 'a' ≤ c ∧ c ≤ 'f' then some (c.toNat - 'a'.toNat + 10)
  else if 'A' ≤ c ∧ c ≤ 'F' then some (c.toNat - 'A'.toNat + 10)
  else none

def pieceOfUnit (unit : Nat) : Piece :=
  if 0xD800 ≤ unit ∧ unit < 0xE000 then .half unit else .char (Char.ofNat unit)

/-- The character behind a backslash, other than the escape by number. -/
def letterEscape? : Char → Option Char
  | '"' => some '"'
  | '\\' => some '\\'
  | '/' => some '/'
  | 'b' => some (Char.ofNat 8)
  | 'f' => some (Char.ofNat 12)
  | 'n' => some '\n'
  | 'r' => some '\r'
  | 't' => some '\t'
  | _ => none

/-- The pieces of a string literal up to its closing quote. -/
def readPieces : List Char → Option (List Piece × List Char)
  | [] => none
  | '"' :: rest => some ([], rest)
  | '\\' :: 'u' :: a :: b :: c :: d :: rest => do
      let a ← hexValue? a
      let b ← hexValue? b
      let c ← hexValue? c
      let d ← hexValue? d
      let (pieces, rest) ← readPieces rest
      return (pieceOfUnit (((a * 16 + b) * 16 + c) * 16 + d) :: pieces, rest)
  | '\\' :: letter :: rest => do
      let c ← letterEscape? letter
      let (pieces, rest) ← readPieces rest
      return (.char c :: pieces, rest)
  | c :: rest =>
      if c.toNat < 0x20 ∨ c = '\\' then none
      else do
        let (pieces, rest) ← readPieces rest
        return (.char c :: pieces, rest)

/-- Joins halves that belong together; a half alone has no text. -/
def joinPieces : List Piece → Option (List Char)
  | [] => some []
  | .char c :: rest => (joinPieces rest).map (c :: ·)
  | .half high :: .half low :: rest =>
      if high < 0xDC00 ∧ 0xDC00 ≤ low then
        (joinPieces rest).map
          (Char.ofNat (0x10000 + (high - 0xD800) * 0x400 + (low - 0xDC00)) :: ·)
      else none
  | .half _ :: _ => none

/-- A string literal behind its opening quote. -/
def readString (text : List Char) : Option (JsonText × List Char) := do
  let (pieces, rest) ← readPieces text
  return ((joinPieces pieces).map String.ofList, rest)

mutual

/-- One value and the rest of the text behind it. -/
def readValue : Nat → List Char → Option (Json × List Char)
  | 0, _ => none
  | fuel + 1, text =>
      match skipBlanks text with
      | '"' :: rest => (readString rest).map fun (text, rest) => (Json.string text, rest)
      | '[' :: rest =>
          match skipBlanks rest with
          | ']' :: rest => some (.array [], rest)
          | rest => (readElements fuel rest).map fun (elements, rest) => (Json.array elements, rest)
      | '\x7b' :: rest =>
          match skipBlanks rest with
          | '\x7d' :: rest => some (.object [], rest)
          | rest => (readMembers fuel rest).map fun (members, rest) => (Json.object members, rest)
      | 'n' :: rest => (Text.after? "ull".toList rest).map fun rest => (.null, rest)
      | 't' :: rest => (Text.after? "rue".toList rest).map fun rest => (.bool true, rest)
      | 'f' :: rest => (Text.after? "alse".toList rest).map fun rest => (.bool false, rest)
      | rest => (readNumber rest).map fun (value, rest) => (Json.number value, rest)

/-- The elements of an array that has at least one. -/
def readElements : Nat → List Char → Option (List Json × List Char)
  | 0, _ => none
  | fuel + 1, text => do
      let (element, rest) ← readValue fuel text
      match skipBlanks rest with
      | ',' :: rest =>
          let (elements, rest) ← readElements fuel rest
          return (element :: elements, rest)
      | ']' :: rest => return ([element], rest)
      | _ => none

/-- The members of an object that has at least one. -/
def readMembers : Nat → List Char → Option (List (JsonText × Json) × List Char)
  | 0, _ => none
  | fuel + 1, text => do
      match skipBlanks text with
      | '"' :: rest =>
          let (name, rest) ← readString rest
          match skipBlanks rest with
          | ':' :: rest =>
              let (value, rest) ← readValue fuel rest
              match skipBlanks rest with
              | ',' :: rest =>
                  let (members, rest) ← readMembers fuel rest
                  return ((name, value) :: members, rest)
              | '\x7d' :: rest => return ([(name, value)], rest)
              | _ => none
          | _ => none
      | _ => none

end

/-- Reads a whole text as one value. -/
def readChars? (text : List Char) : Option Json := do
  let (value, rest) ← readValue (2 * text.length + 1) text
  if skipBlanks rest = [] then some value else none

def read? (text : String) : Option Json :=
  readChars? text.toList

end TextVectors.Json

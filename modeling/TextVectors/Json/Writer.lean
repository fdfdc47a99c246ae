import TextVectors.Json.Basic

namespace TextVectors.Json

/-! Writing a JSON text without blanks.

Strings escape quotes, backslashes and control characters, and nothing else.  A
string without a text is written as the half of a surrogate pair that it is, so
what is written always reads back.
-/

def digitChar (digit : Digit) : Char :=
  Char.ofNat ('0'.toNat + digit.val)

def hexChar (value : Nat) : Char :=
  if value < 10 then Char.ofNat ('0'.toNat + value) else Char.ofNat ('a'.toNat + (value - 10))

def escape (c : Char) : List Char :=
  if c = '"' then ['\\', '"']
  else if c = '\\' then ['\\', '\\']
  else if c = '\n' then ['\\', 'n']
  else if c = '\r' then ['\\', 'r']
  else if c = '\t' then ['\\', 't']
  else if c = Char.ofNat 8 then ['\\', 'b']
  else if c = Char.ofNat 12 then ['\\', 'f']
  else if c.toNat < 0x20 then ['\\', 'u', '0', '0', hexChar (c.toNat / 16), hexChar (c.toNat % 16)]
  else [c]

def writeText : JsonText → List Char
  | some text => '"' :: text.toList.flatMap escape ++ ['"']
  | none => "\"\\ud800\"".toList

def writeNumber (number : JsonNumber) : List Char :=
  let sign := if number.negative then ['-'] else []
  let fraction := match number.fraction with
    | [] => []
    | digits => '.' :: digits.map digitChar
  let exponent := match number.exponent with
    | none => []
    | some (negative, digits) =>
        'e' :: (if negative then '-' else '+') :: digits.map digitChar
  sign ++ number.whole.map digitChar ++ fraction ++ exponent

mutual

def write : Json → List Char
  | .null => "null".toList
  | .bool true => "true".toList
  | .bool false => "false".toList
  | .number value => writeNumber value
  | .string text => writeText text
  | .array elements => '[' :: writeElements elements ++ [']']
  | .object members => '\x7b' :: writeMembers members ++ ['\x7d']

def writeElements : List Json → List Char
  | [] => []
  | [element] => write element
  | element :: next :: rest => write element ++ ',' :: writeElements (next :: rest)

def writeMembers : List (JsonText × Json) → List Char
  | [] => []
  | [(name, value)] => writeText name ++ ':' :: write value
  | (name, value) :: next :: rest =>
      writeText name ++ ':' :: write value ++ ',' :: writeMembers (next :: rest)

end

def compact (value : Json) : String :=
  String.ofList (write value)

end TextVectors.Json

import TextVectors.Text.Unprintable

namespace TextVectors.Text

/-! Quoted texts in messages.

A text is quoted by double quotes around it.  Quotes, backslashes and the four
common controls are escaped by a letter, other unprintable characters by their
code point in hexadecimal; single quotes and all printable characters stay.
-/

/-- The digits of a code point in hexadecimal, small letters, without leading
zeros. -/
def hexDigits (code : Nat) : List Char :=
  Nat.toDigits 16 code

/-- The form of one character inside a quoted text. -/
def quoteChar (c : Char) : List Char :=
  if c = '"' then ['\\', '"']
  else if c = '\\' then ['\\', '\\']
  else if c = '\n' then ['\\', 'n']
  else if c = '\r' then ['\\', 'r']
  else if c = '\t' then ['\\', 't']
  else if c = Char.ofNat 0 then ['\\', '0']
  else if isUnprintable c then ['\\', 'u', '\x7b'] ++ hexDigits c.toNat ++ ['\x7d']
  else [c]

def quoted (text : String) : String :=
  String.ofList ('"' :: text.toList.flatMap quoteChar ++ ['"'])

/-- A quoted file path; here single quotes are escaped too. -/
def quotedPath (path : String) : String :=
  let quote (c : Char) := if c = '\'' then ['\\', c] else quoteChar c
  String.ofList ('"' :: path.toList.flatMap quote ++ ['"'])

/-- The form of one character of a name that is handed over as bytes: controls
other than the three common ones are shown as one byte. -/
def quoteNameChar (c : Char) : List Char :=
  if c = '\'' then ['\\', c]
  else if c = '\n' ∨ c = '\r' ∨ c = '\t' ∨ c = '"' ∨ c = '\\' then quoteChar c
  else if c.toNat < 0x10 then ['\\', 'x', '0'] ++ hexDigits c.toNat
  else if c.toNat < 0x20 ∨ c.toNat = 0x7F then ['\\', 'x'] ++ hexDigits c.toNat
  else quoteChar c

/-- A quoted name that is handed over as bytes. -/
def quotedName (name : String) : String :=
  String.ofList ('"' :: name.toList.flatMap quoteNameChar ++ ['"'])

/-- A list of texts that are already in their written form. -/
def bracketed (items : List String) : String :=
  "[" ++ String.intercalate ", " items ++ "]"

/-- A value with named fields, under the name of its type. -/
def braced (title : String) (fields : List (String × String)) : String :=
  let field (entry : String × String) := entry.1 ++ ": " ++ entry.2
  title ++ " \x7b " ++ String.intercalate ", " (fields.map field) ++ " \x7d"

/-- An optional text that is already in its written form. -/
def optionText : Option String → String
  | none => "None"
  | some text => "Some(" ++ text ++ ")"

end TextVectors.Text

import TextVectors.Text.Cut
import TextVectors.Text.WhiteSpace
import TextVectors.Tokenizer.Basic

namespace TextVectors.Scripted

/-! A tokenizer that follows a script.

Texts in the script's table have the encoding given there.  Any other text has
one token per word, whose id is the word's length in bytes.
-/

structure Tokenizer where
  table : List (String × Encoding) := []
  vocabularySize : Option Nat := none
  /-- Ids that cannot be decoded. -/
  badIds : List Nat := []
deriving Repr, DecidableEq

namespace Tokenizer

/-- A text that contains this part is refused. -/
def refusedPart : String := "!fail"

/-- One token per word, all of them visible and of type zero. -/
def encodeWords (text : String) : Encoding :=
  let words := Text.words text.toList
  { ids := words.map fun word => (String.ofList word).utf8ByteSize
    mask := words.map fun _ => 1
    types := words.map fun _ => 0 }

def encode (script : Tokenizer) (text : String) : Except TokenizerError Encoding :=
  if Text.contains refusedPart.toList text.toList then
    .error (.encodeFailed s!"refused: {text}")
  else .ok ((script.table.lookup text).getD (encodeWords text))

/-- Each id has a text of its own; the first bad id is named. -/
def decode (script : Tokenizer) (ids : List Nat) : Except TokenizerError String :=
  match ids.find? script.badIds.contains with
  | some id => .error (.decodeFailed s!"unlucky {id}")
  | none => .ok (String.intercalate " " (ids.map fun id => s!"tok{id}"))

def tokenizer (script : Tokenizer) : TextVectors.Tokenizer where
  encode := script.encode
  decode ids _ := script.decode ids
  vocabularySize := script.vocabularySize

end Tokenizer

end TextVectors.Scripted

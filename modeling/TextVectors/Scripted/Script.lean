import TextVectors.Json.Exact
import TextVectors.Scripted.PreProcessor
import TextVectors.Scripted.Runtime
import TextVectors.Scripted.Tokenizer

namespace TextVectors.Scripted

/-! Scripts as they are written in JSON.

Everything in a script may be left out.
-/

open Inference

/-- A text handed over as bytes: none for null, otherwise a text or the bytes
themselves. -/
def terminated? : Json → Option (List UInt8)
  | .null => none
  | .string text => some (text.getD "").toUTF8.toList
  | value => some ((value.naturalsAt "bytes").map UInt8.ofNat)

def functionAt? (script : Json) : Option NativeFunction :=
  NativeFunction.ofName? (script.textAt "call")

def failureOf? (script : Json) : Option Failure :=
  (functionAt? script).map fun function =>
    { function
      ordinal := script.naturalAt "nth"
      code := script.integerAt "code"
      message := terminated? (script.memberAt "message") }

def omissionOf? (script : Json) : Option Omission :=
  (functionAt? script).map fun function => ⟨function, script.naturalAt "nth"⟩

def Runtime.ofJson (script : Json) : Runtime where
  version := match script.member? "version" with
    | none => some usualVersion
    | some version => terminated? version
  hasBase := !script.boolAt "base_null"
  hasVersion := !script.boolAt "api_null"
  missing := (script.textsAt "null_slots").filterMap NativeFunction.ofName?
  failures := (script.listAt "fail").filterMap failureOf?
  omissions := (script.listAt "null").filterMap omissionOf?
  patterns := (script.listAt "outputs").map fun pattern =>
    (pattern.looseList.map Json.looseBinary32).toArray

def encodingOf (script : Json) : Encoding where
  ids := script.naturalsAt "ids"
  mask := script.naturalsAt "mask"
  types := script.naturalsAt "types"

def Tokenizer.ofJson (script : Json) : Tokenizer where
  table := match script.memberAt "table" with
    | .object members => members.map fun member => (member.1.getD "", encodingOf member.2)
    | _ => []
  vocabularySize := script.naturalAt? "vocab"
  badIds := script.naturalsAt "bad_ids"

def PreProcessor.ofJson (script : Json) : PreProcessor where
  change := .ofName (script.textAt "map")
  breaksOn := script.textAt? "panic_on"
  payload := .ofName (script.textAt "payload")

end TextVectors.Scripted

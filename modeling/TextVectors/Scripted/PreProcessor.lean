import TextVectors.Embedding.Config
import TextVectors.Text.Cut

namespace TextVectors.Scripted

/-! A pre-processor that follows a script: one of a few changes for every
document, and a part of a text at which it breaks down.
-/

inductive Change where
  | lower
  | upper
  | trim
  | empty
  | keep
deriving Repr, DecidableEq, Inhabited

namespace Change

def ofName (name : String) : Change :=
  if name = "lower" then .lower
  else if name = "upper" then .upper
  else if name = "trim" then .trim
  else if name = "empty" then .empty
  else .keep

/-- Case changes touch ASCII letters only, and only spaces are trimmed. -/
def apply (change : Change) (text : List Char) : List Char :=
  match change with
  | .lower => Text.lowerAscii text
  | .upper => Text.upperAscii text
  | .trim => (((text.dropWhile (· == ' ')).reverse).dropWhile (· == ' ')).reverse
  | .empty => []
  | .keep => text

end Change

/-- What is left behind when a document breaks the pre-processor. -/
inductive Payload where
  | fixed
  | naming
  | other
deriving Repr, DecidableEq, Inhabited

def Payload.ofName (name : String) : Payload :=
  if name = "str" then .fixed else if name = "string" then .naming else .other

def Payload.of (payload : Payload) (document : String) : Breakdown :=
  match payload with
  | .fixed => .text "static boom"
  | .naming => .text s!"cannot handle {document}"
  | .other => .other

structure PreProcessor where
  change : Change := .keep
  /-- Documents that contain this part break the pre-processor. -/
  breaksOn : Option String := none
  payload : Payload := .other
deriving Repr, DecidableEq

namespace PreProcessor

def breaks (script : PreProcessor) (document : String) : Bool :=
  script.breaksOn.any fun part => Text.contains part.toList document.toList

def apply (script : PreProcessor) (document : String) : Except Breakdown String :=
  if script.breaks document then .error (script.payload.of document)
  else .ok (String.ofList (script.change.apply document.toList))

def preProcessor (script : PreProcessor) : TextVectors.PreProcessor where
  apply := script.apply

end PreProcessor

end TextVectors.Scripted

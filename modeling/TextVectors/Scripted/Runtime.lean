import TextVectors.Inference.Native

namespace TextVectors.Scripted

/-! A native library that follows a script.

The script says which calls fail or hand out nothing, and what runs write.  All
other calls succeed.
-/

open Inference

/-- The call of a function that is answered by an error status. -/
structure Failure where
  function : NativeFunction
  ordinal : Nat
  code : Int
  message : Option (List UInt8)
deriving Repr, DecidableEq

/-- The call of a function that succeeds and hands out nothing. -/
structure Omission where
  function : NativeFunction
  ordinal : Nat
deriving Repr, DecidableEq

def usualVersion : List UInt8 :=
  "1.21.0".toUTF8.toList

structure Runtime where
  version : Option (List UInt8) := some usualVersion
  hasBase : Bool := true
  hasVersion : Bool := true
  missing : List NativeFunction := []
  failures : List Failure := []
  omissions : List Omission := []
  /-- What successive runs write into their outputs, over and over again. -/
  patterns : List (Array Float32) := []

namespace Runtime

/-- A failure goes before an omission. -/
def answer (script : Runtime) (function : NativeFunction) (ordinal : Nat) : Answer :=
  let isFailure (entry : Failure) := entry.function = function ∧ entry.ordinal = ordinal
  match script.failures.find? fun entry => decide (isFailure entry) with
  | some failure => .failure failure.code failure.message
  | none => if script.omissions.contains ⟨function, ordinal⟩ then .null else .success

/-- The pattern of a run; failed runs count too. -/
def patternOf? (script : Runtime) (ordinal : Nat) : Option (Array Float32) :=
  script.patterns[(ordinal - 1) % script.patterns.length]?

/-- A pattern is repeated until the buffer is full.  Failed runs write nothing. -/
def fill (script : Runtime) (ordinal : Nat) (cell : Nat) :
    (element : ElementType) → element.Cell → element.Cell
  | .float, old =>
      match script.answer .run ordinal, script.patternOf? ordinal with
      | .failure .., _ | _, none => old
      | _, some pattern => pattern.getD (cell % pattern.size) old
  | _, old => old

def behaviour (script : Runtime) : Behaviour where
  version := script.version
  hasBase := script.hasBase
  hasVersion := script.hasVersion
  hasFunction function := !script.missing.contains function
  answer := script.answer
  fill ordinal _ _ cell element old := script.fill ordinal cell element old

end Runtime

end TextVectors.Scripted

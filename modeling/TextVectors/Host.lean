import TextVectors.FileTree
import TextVectors.Tokenizer.WordPiece

namespace TextVectors

/-! The machine that the library runs on: its files and its variables. -/

inductive FileContent where
  /-- The native library, or a library without its entry point. -/
  | library (hasEntryPoint : Bool)
  | tokenizer (definition : WordPiece)
  | other

structure Host where
  files : FileTree FileContent
  /-- The variable that names the native library when no path was set. -/
  libraryVariable : Option String
  /-- Whether the variable is set that turns off the version warning. -/
  skipVersionCheck : Bool

namespace Host

/-- Reads a tokenizer; the reader's own explanation of a failure is cut. -/
def loadTokenizer (host : Host) (path : String) : Except TokenizerError WordPiece :=
  match host.files.content? path with
  | some (.tokenizer definition) => .ok definition
  | _ => .error (.loadFailed s!"{path}: <reason>")

/-- Reads a tokenizer whose encodings have a fixed length, if one is given. -/
def openTokenizer (host : Host) (path : String) (fixedLength : Option Nat) :
    Except TokenizerError WordPiece := do
  let definition ← host.loadTokenizer path
  match fixedLength with
  | some length => WordPiece.checkFixedLength length
  | none => pure ()
  return definition

end Host

end TextVectors

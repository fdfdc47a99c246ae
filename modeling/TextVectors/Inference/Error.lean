import TextVectors.Inference.StatusCode
import TextVectors.Shape

namespace TextVectors.Inference

/-! What can go wrong between this library and the native one.

Each error names its cause; the wording is in the `message` functions only.
-/

/-- Why the native library could not be loaded. -/
inductive LoadFault where
  | unreachable (path reason : String)
  | notRegularFile (path : String)
  | notLoadable (path reason : String)
  | nullBase
  | missingVersion (version : String) (api : Nat)
  | nullEnvironment
  | described (text : String)
deriving Repr, DecidableEq

def LoadFault.message : LoadFault → String
  | .unreachable path reason => s!"{path}: {reason}"
  | .notRegularFile path => s!"{path} is not a regular file"
  | .notLoadable path reason => s!"Failed to load {path}: {reason}"
  | .nullBase => "OrtGetApiBase returned null"
  | .missingVersion version api => s!"runtime {version} does not provide API version {api}"
  | .nullEnvironment => "CreateEnv returned a null environment"
  | .described text => text

inductive Side where
  | input
  | output
deriving Repr, DecidableEq

def Side.name : Side → String
  | .input => "input"
  | .output => "output"

/-- Why a session cannot be created or run as asked. -/
inductive SessionFault where
  | emptyModelPath
  | missingSide
  | countMismatch (side : Side) (names values : Nat)
  | destroyedValue (side : Side) (position : Nat)
  | emptyName
  | nameWithNul (name : String)
  | nullOptions
  | nullSession
  | wrongCount (side : Side) (expected actual : Nat)
  | unboundValue (side : Side) (position : Nat)
  | described (text : String)
deriving Repr, DecidableEq

def SessionFault.message : SessionFault → String
  | .emptyModelPath => "model path is empty"
  | .missingSide => "session needs at least one input and one output"
  | .countMismatch side names values =>
      s!"{names} {side.name} names but {values} {side.name} values"
  | .destroyedValue side position => s!"{side.name} value {position} has been destroyed"
  | .emptyName => "empty tensor name"
  | .nameWithNul name => s!"tensor name {Text.quoted name} contains NUL"
  | .nullOptions => "CreateSessionOptions returned null"
  | .nullSession => "CreateSession returned a null session"
  | .wrongCount side expected actual =>
      s!"expected {expected} {side.name} values, got {actual}"
  | .unboundValue side position =>
      s!"{side.name} value {position} is not the value bound at session creation"
  | .described text => text

inductive RuntimeError where
  | libraryPathNotSet
  | alreadyInitialized (setting : String)
  | libraryLoadFailed (fault : LoadFault)
  | symbolNotFound (name reason : String)
  | notInitialized
  | native (function : String) (code : StatusCode) (text : String)
  | invalidShape (fault : ShapeFault)
  | dataLengthMismatch (shape : String) (expected actual : Nat)
  | invalidInput (fault : SessionFault)
  | destroyed (subject : String)
  | modelNotFound (path : String)
  | multiple (errors : List RuntimeError)
  | file (reason : String)
deriving Repr, Inhabited

namespace RuntimeError

/-- The text that both error families use for a runtime that is not there. -/
def notInitializedText : String :=
  "ONNX Runtime not initialized: call set_library_path and initialize first"

mutual

def message : RuntimeError → String
  | .libraryPathNotSet => "Library path not set, call set_library_path first"
  | .alreadyInitialized setting => s!"Cannot change {setting} after environment is initialized"
  | .libraryLoadFailed fault => s!"Failed to load ONNX Runtime library: {fault.message}"
  | .symbolNotFound name reason => s!"Missing symbol {name}: {reason}"
  | .notInitialized => notInitializedText
  | .native function code text => s!"{function}: {text} ({code.name})"
  | .invalidShape fault => s!"Invalid shape: {fault.message}"
  | .dataLengthMismatch shape expected actual =>
      s!"Data length mismatch: shape {shape} needs {expected} elements, got {actual}"
  | .invalidInput fault => s!"Invalid input: {fault.message}"
  | .destroyed subject => s!"{subject} has been destroyed"
  | .modelNotFound path => s!"Model file not found: {path}"
  | .multiple errors => String.intercalate "; " (messages errors)
  | .file reason => s!"IO error: {reason}"

def messages : List RuntimeError → List String
  | [] => []
  | error :: rest => error.message :: messages rest

end

/-- The members of a joined error; any other error stands for itself. -/
def parts : RuntimeError → List RuntimeError
  | .multiple errors => errors
  | error => [error]

/-- Joins failures into one error.  Errors that are joined themselves contribute
their members, one level deep; a single member is returned as it is. -/
def join (errors : List RuntimeError) : Option RuntimeError :=
  match errors.flatMap parts with
  | [] => none
  | [error] => some error
  | flat => some (.multiple flat)

/-- The code of a failed native call. -/
def nativeCode : RuntimeError → Option StatusCode
  | .native _ code _ => some code
  | _ => none

/-- The texts of the underlying causes, outermost first. -/
def sources : RuntimeError → List String
  | .file reason => [reason]
  | _ => []

end RuntimeError

end TextVectors.Inference

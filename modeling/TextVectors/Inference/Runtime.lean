import TextVectors.Engine
import TextVectors.Host

namespace TextVectors.Inference

/-! A loaded native library with its environment.

Whoever works with a runtime refers to it.  The native environment is released
when the last reference goes.
-/

structure Runtime where
  environment : Handle
  version : String
  libraryPath : String
deriving Repr, DecidableEq

def apiVersion : Nat := 21

/-- The minor version in a text such as `1.21.0`. -/
def minorVersion? (version : String) : Option Nat :=
  match Text.cut (· == '.') version.toList with
  | _ :: minor :: _ => Text.naturalUpTo? (halfWordLimit - 1) (Text.trim minor)
  | _ => none

namespace Runtime

def retain (runtime : Runtime) : Step Unit :=
  modify fun engine => { engine with references := runtime.environment :: engine.references }

/-- Gives up a reference, and with the last one the native environment. -/
def letGo (runtime : Runtime) : Step Unit := do
  modify fun engine => { engine with references := engine.references.erase runtime.environment }
  if !(← get).references.contains runtime.environment then
    Engine.release runtime.environment
    note .debug "Released ONNX Runtime environment"

/-- How many references there are to a runtime. -/
def referenceCount (runtime : Runtime) : Step Nat := do
  return (← get).references.count runtime.environment

def checkVersion (host : Host) (version : String) : Step Unit := do
  if !host.skipVersionCheck then
    match minorVersion? version with
    | some minor =>
        if minor < apiVersion then
          note .warn <| s!"ONNX Runtime {version} is older than 1.{apiVersion}; " ++
            "some entry points may be missing"
    | none => note .warn s!"Could not parse ONNX Runtime version {Text.quoted version}"

/-- Opens the library at a path, which must be a regular file. -/
def openLibrary (host : Host) (path : String) : Except RuntimeError Unit :=
  match host.files.content? path with
  | some (.library true) => .ok ()
  | some (.library false) => .error (.symbolNotFound "OrtGetApiBase" "<reason>")
  | _ => .error (.libraryLoadFailed (.notLoadable path "<reason>"))

/-- The first function that the table lacks is the error. -/
def checkTable (behaviour : Behaviour) : Except RuntimeError Unit :=
  match NativeFunction.all.find? fun function => !behaviour.hasFunction function with
  | none => .ok ()
  | some function =>
      .error (.symbolNotFound function.name s!"OrtApi slot {function.slot} is null")

/-- The name under which the native environment logs. -/
def logId : String := "ortbind"

/-- Loads the library and creates its environment.  The result is referred to
once. -/
def load (host : Host) (path : String) (level : LoggingLevel) : Action RuntimeError Runtime := do
  let behaviour := (← get).behaviour
  ofExcept (openLibrary host path)
  if !behaviour.hasBase then
    throw (.libraryLoadFailed .nullBase)
  let version := Text.ofTerminated behaviour.version
  checkVersion host version
  Engine.record (.askedVersion apiVersion)
  if !behaviour.hasVersion then
    throw (.libraryLoadFailed (.missingVersion version apiVersion))
  ofExcept (checkTable behaviour)
  match ← Engine.request (.createEnvironment level logId) with
  | none => throw (.libraryLoadFailed .nullEnvironment)
  | some environment =>
      note .info s!"Loaded ONNX Runtime {version} from {path}"
      let runtime : Runtime := { environment, version, libraryPath := path }
      runtime.retain
      return runtime

def description (runtime : Runtime) : String :=
  Text.braced "Runtime" [
    ("version", Text.quoted runtime.version),
    ("library_path", Text.quotedPath runtime.libraryPath)]

end Runtime

end TextVectors.Inference

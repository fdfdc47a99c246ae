import TextVectors.Inference.Runtime

namespace TextVectors.Inference

/-! The environment: a counted holder of one runtime.

The first `load` loads the library and every further one only counts; the last
`unload` lets go of the runtime.  The library path and the log level can
be set while nothing is loaded.
-/

structure Environment where
  count : Nat := 0
  libraryPath : Option String := none
  logLevel : LoggingLevel := .default
  runtime : Option Runtime := none
deriving Repr

/-- File name of the native library on this platform. -/
def libraryFileName : String := "libonnxruntime.so"

/-- The version reported while no runtime is loaded. -/
def unloadedVersion : String := "0.0.0-dev"

/-- A library path must name a regular file. -/
def checkLibraryPath (host : Host) (path : String) : Except RuntimeError String :=
  if path = "" then .error .libraryPathNotSet
  else
    match host.files.locate path with
    | .error fault => .error (.libraryLoadFailed (.unreachable path fault.message))
    | .ok (.inside (.file _) _) => .ok path
    | .ok _ => .error (.libraryLoadFailed (.notRegularFile path))

/-- The path to load from: the one that was set, otherwise the variable's value
unless it is empty. -/
def resolveLibraryPath (host : Host) (explicit : Option String) : Except RuntimeError String :=
  match explicit with
  | some path => checkLibraryPath host path
  | none =>
      match host.libraryVariable with
      | some path => if path = "" then .error .libraryPathNotSet else checkLibraryPath host path
      | none => .error .libraryPathNotSet

namespace Environment

def isInitialized (environment : Environment) : Bool :=
  environment.count > 0

def version (environment : Environment) : String :=
  match environment.runtime with
  | some runtime => runtime.version
  | none => unloadedVersion

def loaded (environment : Environment) : Except RuntimeError Runtime :=
  match environment.runtime with
  | some runtime => .ok runtime
  | none => .error .notInitialized

/-- While something is loaded only the path that was set is accepted again. -/
def setLibraryPath (environment : Environment) (path : String) :
    Except RuntimeError Environment :=
  if environment.count > 0 then
    if environment.libraryPath.any (FilePath.same path) then .ok environment
    else .error (.alreadyInitialized "library path")
  else .ok { environment with libraryPath := some path }

/-- While something is loaded only the level that was set is accepted again. -/
def setLogLevel (environment : Environment) (level : LoggingLevel) :
    Except RuntimeError Environment :=
  if environment.count > 0 then
    if environment.logLevel = level then .ok environment
    else .error (.alreadyInitialized "log level")
  else .ok { environment with logLevel := level }

def load (host : Host) (environment : Environment) :
    Action RuntimeError Environment := do
  if environment.count > 0 then
    return { environment with count := environment.count + 1 }
  let path ← ofExcept (resolveLibraryPath host environment.libraryPath)
  let runtime ← Runtime.load host path environment.logLevel
  return { environment with count := 1, runtime := some runtime }

/-- Lets go of the runtime, if one is held. -/
def detach (environment : Environment) : Step Environment := do
  match environment.runtime with
  | none => return { environment with count := 0 }
  | some runtime =>
      runtime.letGo
      return { environment with count := 0, runtime := none }

/-- Takes back one `load`; without one it does nothing. -/
def unload (environment : Environment) : Step Environment := do
  match environment.count with
  | 0 => return environment
  | 1 =>
      match environment.runtime with
      | none => pure ()
      | some runtime =>
          let others := (← runtime.referenceCount) - 1
          if others > 0 then
            note .debug s!"Environment destroyed with {others} live runtime references"
      environment.detach
  | count + 2 => return { environment with count := count + 1 }

def description (environment : Environment) : String :=
  let path := Text.optionText (environment.libraryPath.map Text.quotedPath)
  Text.braced "Environment" [
    ("ref_count", toString environment.count),
    ("library_path", path),
    ("log_level", environment.logLevel.title)]

end Environment

end TextVectors.Inference

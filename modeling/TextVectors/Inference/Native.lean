import TextVectors.Inference.ElementType
import TextVectors.Inference.Error
import TextVectors.Inference.LoggingLevel

namespace TextVectors.Inference

/-! The native library: its functions, its objects, and what was asked of it.

The library is known by its behaviour, a choice of answer for each call of each
function.  Everything that was asked is kept as a history of events, newest
first; which objects exist, how they are numbered and which of them are still
live are all read off the history.
-/

inductive NativeFunction where
  | getErrorCode
  | getErrorMessage
  | createEnv
  | createSession
  | run
  | createSessionOptions
  | setSessionGraphOptimizationLevel
  | setIntraOpNumThreads
  | setInterOpNumThreads
  | createTensorWithDataAsOrtValue
  | createCpuMemoryInfo
  | releaseEnv
  | releaseStatus
  | releaseMemoryInfo
  | releaseSession
  | releaseValue
  | releaseSessionOptions
deriving Repr, DecidableEq, Inhabited

namespace NativeFunction

/-- Position in the function table. -/
def slot : NativeFunction → Nat
  | .getErrorCode => 1
  | .getErrorMessage => 2
  | .createEnv => 3
  | .createSession => 7
  | .run => 9
  | .createSessionOptions => 10
  | .setSessionGraphOptimizationLevel => 23
  | .setIntraOpNumThreads => 24
  | .setInterOpNumThreads => 25
  | .createTensorWithDataAsOrtValue => 49
  | .createCpuMemoryInfo => 69
  | .releaseEnv => 92
  | .releaseStatus => 93
  | .releaseMemoryInfo => 94
  | .releaseSession => 95
  | .releaseValue => 96
  | .releaseSessionOptions => 100

def name : NativeFunction → String
  | .getErrorCode => "GetErrorCode"
  | .getErrorMessage => "GetErrorMessage"
  | .createEnv => "CreateEnv"
  | .createSession => "CreateSession"
  | .run => "Run"
  | .createSessionOptions => "CreateSessionOptions"
  | .setSessionGraphOptimizationLevel => "SetSessionGraphOptimizationLevel"
  | .setIntraOpNumThreads => "SetIntraOpNumThreads"
  | .setInterOpNumThreads => "SetInterOpNumThreads"
  | .createTensorWithDataAsOrtValue => "CreateTensorWithDataAsOrtValue"
  | .createCpuMemoryInfo => "CreateCpuMemoryInfo"
  | .releaseEnv => "ReleaseEnv"
  | .releaseStatus => "ReleaseStatus"
  | .releaseMemoryInfo => "ReleaseMemoryInfo"
  | .releaseSession => "ReleaseSession"
  | .releaseValue => "ReleaseValue"
  | .releaseSessionOptions => "ReleaseSessionOptions"

/-- Every function, by ascending slot: the order in which the table is read. -/
def all : List NativeFunction :=
  [.getErrorCode, .getErrorMessage, .createEnv, .createSession, .run, .createSessionOptions,
   .setSessionGraphOptimizationLevel, .setIntraOpNumThreads, .setInterOpNumThreads,
   .createTensorWithDataAsOrtValue, .createCpuMemoryInfo, .releaseEnv, .releaseStatus,
   .releaseMemoryInfo, .releaseSession, .releaseValue, .releaseSessionOptions]

def ofName? (name : String) : Option NativeFunction :=
  all.find? fun function => function.name == name

end NativeFunction

inductive ObjectKind where
  | environment
  | memoryInfo
  | value
  | sessionOptions
  | session
  | status
deriving Repr, DecidableEq, Inhabited

namespace ObjectKind

def name : ObjectKind → String
  | .environment => "env"
  | .memoryInfo => "meminfo"
  | .value => "value"
  | .sessionOptions => "options"
  | .session => "session"
  | .status => "status"

/-- The function that releases an object of this kind. -/
def releasedBy : ObjectKind → NativeFunction
  | .environment => .releaseEnv
  | .memoryInfo => .releaseMemoryInfo
  | .value => .releaseValue
  | .sessionOptions => .releaseSessionOptions
  | .session => .releaseSession
  | .status => .releaseStatus

end ObjectKind

/-- An object of the library; objects of a kind are numbered from one. -/
structure Handle where
  kind : ObjectKind
  number : Nat
deriving Repr, DecidableEq, Inhabited

def Handle.text (handle : Handle) : String :=
  s!"{handle.kind.name}{handle.number}"

structure Binding where
  name : String
  value : Handle
deriving Repr, DecidableEq

/-- A call of a function that can fail, with everything that is passed to it.
The inputs of a run come with the contents of their buffers. -/
inductive Call where
  | createEnvironment (level : LoggingLevel) (logId : String)
  | createMemoryInfo (allocator memory : Nat)
  | createValue (info : Handle) (byteLength : Nat) (dims : List Int) (element : ElementType)
  | createSessionOptions
  | createSession (environment : Handle) (model : String) (options : Handle)
  | setOptimizationLevel (options : Handle) (level : Nat)
  | setIntraOpThreads (options : Handle) (count : Nat)
  | setInterOpThreads (options : Handle) (count : Nat)
  | run (session : Handle) (inputs : List (Binding × Contents)) (outputs : List Binding)

namespace Call

def function : Call → NativeFunction
  | .createEnvironment .. => .createEnv
  | .createMemoryInfo .. => .createCpuMemoryInfo
  | .createValue .. => .createTensorWithDataAsOrtValue
  | .createSessionOptions => .createSessionOptions
  | .createSession .. => .createSession
  | .setOptimizationLevel .. => .setSessionGraphOptimizationLevel
  | .setIntraOpThreads .. => .setIntraOpNumThreads
  | .setInterOpThreads .. => .setInterOpNumThreads
  | .run .. => .run

/-- The kind of object that a successful call hands out. -/
def creates : Call → Option ObjectKind
  | .createEnvironment .. => some .environment
  | .createMemoryInfo .. => some .memoryInfo
  | .createValue .. => some .value
  | .createSessionOptions => some .sessionOptions
  | .createSession .. => some .session
  | _ => none

/-- The objects that are passed to the call. -/
def uses : Call → List Handle
  | .createEnvironment .. => []
  | .createMemoryInfo .. => []
  | .createValue info .. => [info]
  | .createSessionOptions => []
  | .createSession environment _ options => [environment, options]
  | .setOptimizationLevel options _ => [options]
  | .setIntraOpThreads options _ => [options]
  | .setInterOpThreads options _ => [options]
  | .run session inputs outputs =>
      session :: inputs.map (·.1.value) ++ outputs.map (·.value)

end Call

/-- How a call ended: with an object, without the object it should have handed
out, with nothing to hand out, or with a status that describes the failure. -/
inductive Outcome where
  | created (handle : Handle)
  | null
  | done
  | failed (status : Handle)
deriving Repr, DecidableEq

inductive Event where
  | askedVersion (api : Nat)
  | called (call : Call) (outcome : Outcome)
  | readCode (status : Handle)
  | readMessage (status : Handle)
  | released (handle : Handle)

namespace Event

/-- The object that came into being, if any. -/
def created? : Event → Option Handle
  | .called _ (.created handle) => some handle
  | .called _ (.failed status) => some status
  | _ => none

def released? : Event → Option Handle
  | .released handle => some handle
  | _ => none

def function? : Event → Option NativeFunction
  | .askedVersion _ => none
  | .called call _ => some call.function
  | .readCode _ => some .getErrorCode
  | .readMessage _ => some .getErrorMessage
  | .released handle => some handle.kind.releasedBy

/-- The objects that are passed to the library. -/
def uses : Event → List Handle
  | .askedVersion _ => []
  | .called call _ => call.uses
  | .readCode status => [status]
  | .readMessage status => [status]
  | .released handle => [handle]

end Event

/-- Everything asked so far, newest first. -/
abbrev History := List Event

namespace History

def created (history : History) : List Handle :=
  history.filterMap Event.created?

def released (history : History) : List Handle :=
  history.filterMap Event.released?

/-- The objects that exist and were not released, newest first. -/
def live (history : History) : List Handle :=
  history.created.filter fun handle => !history.released.contains handle

def callCount (history : History) (function : NativeFunction) : Nat :=
  history.countP fun event => event.function? == some function

/-- The next object of a kind. -/
def fresh (history : History) (kind : ObjectKind) : Handle :=
  ⟨kind, history.created.countP (·.kind == kind) + 1⟩

end History

/-- The library's answer to one call. -/
inductive Answer where
  | success
  | null
  | failure (code : Int) (message : Option (List UInt8))
deriving Repr, DecidableEq, Inhabited

/-- How a library behaves.  Calls of a function are counted from one.  A run leaves
something in each cell of its outputs, whether or not it succeeds; an output
keeps its element type and its number of cells. -/
structure Behaviour where
  version : Option (List UInt8)
  hasBase : Bool
  hasVersion : Bool
  hasFunction : NativeFunction → Bool
  answer : NativeFunction → Nat → Answer
  fill : Nat → Call → (output cell : Nat) → (element : ElementType) → element.Cell → element.Cell

/-- The contents that a run leaves in its outputs. -/
structure RunEffect where
  fill : (output cell : Nat) → (element : ElementType) → element.Cell → element.Cell

/-- No run took place. -/
def RunEffect.untouched : RunEffect where
  fill _ _ _ old := old

/-- Fills the buffer of the output at a position. -/
def RunEffect.apply (effect : RunEffect) (output : Nat) {element : ElementType}
    (cells : List element.Cell) : List element.Cell :=
  cells.mapIdx fun cell old => effect.fill output cell element old

theorem RunEffect.length_apply (effect : RunEffect) (output : Nat) {element : ElementType}
    (cells : List element.Cell) : (effect.apply output cells).length = cells.length := by
  simp [RunEffect.apply]

/-- A run that failed, with what it leaves in its outputs. -/
structure FailedRun where
  error : RuntimeError
  effect : RunEffect

namespace FailedRun

/-- A run that was refused before the library was asked for it. -/
def refused (error : RuntimeError) : FailedRun :=
  ⟨error, .untouched⟩

/-- What a run leaves in its outputs, however it ends. -/
def left : Except FailedRun RunEffect → RunEffect
  | .ok effect => effect
  | .error failed => failed.effect

end FailedRun

end TextVectors.Inference

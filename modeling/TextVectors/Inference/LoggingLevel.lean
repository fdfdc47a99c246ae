import TextVectors.Json.Record

namespace TextVectors.Inference

/-! How much the native library writes to its own log. -/

inductive LoggingLevel where
  | verbose
  | info
  | warning
  | error
  | fatal
deriving Repr, DecidableEq, Inhabited

namespace LoggingLevel

def default : LoggingLevel := .warning

/-- The number under which the native library knows a level. -/
def number : LoggingLevel → Nat
  | .verbose => 0
  | .info => 1
  | .warning => 2
  | .error => 3
  | .fatal => 4

def name : LoggingLevel → String
  | .verbose => "verbose"
  | .info => "info"
  | .warning => "warning"
  | .error => "error"
  | .fatal => "fatal"

def title : LoggingLevel → String
  | .verbose => "Verbose"
  | .info => "Info"
  | .warning => "Warning"
  | .error => "Error"
  | .fatal => "Fatal"

def all : List LoggingLevel :=
  [.verbose, .info, .warning, .error, .fatal]

def ofName? (name : String) : Option LoggingLevel :=
  all.find? fun level => level.name == name

def ofJson? (value : Json) : Option LoggingLevel :=
  value.variantName?.bind ofName?

def toJson (level : LoggingLevel) : Json :=
  .text level.name

theorem ofName?_name (level : LoggingLevel) : ofName? level.name = some level := by
  cases level <;> rfl

end LoggingLevel

end TextVectors.Inference

namespace TextVectors

/-! Messages that the library logs. -/

inductive Severity where
  | error
  | warn
  | info
  | debug
  | trace
deriving Repr, DecidableEq, Inhabited

namespace Severity

/-- Smaller ranks are more severe. -/
def rank : Severity → Nat
  | .error => 1
  | .warn => 2
  | .info => 3
  | .debug => 4
  | .trace => 5

def name : Severity → String
  | .error => "error"
  | .warn => "warn"
  | .info => "info"
  | .debug => "debug"
  | .trace => "trace"

def ofName? (name : String) : Option Severity :=
  [error, warn, info, debug, trace].find? fun severity => severity.name == name

end Severity

structure LogEntry where
  severity : Severity
  text : String
deriving Repr, DecidableEq

/-- Entries at a level or more severe. -/
def LogEntry.upTo (limit : Severity) (entries : List LogEntry) : List LogEntry :=
  entries.filter fun entry => entry.severity.rank ≤ limit.rank

/-- A computation that can log. -/
class MonadNote (m : Type → Type) where
  note : Severity → String → m Unit

export MonadNote (note)

end TextVectors

import TextVectors.Json.Record

namespace TextVectors.Inference

/-! Options of a session: how far the model graph is optimized, and how many
threads run inside one operator and across operators.
-/

inductive OptimizationLevel where
  | disable
  | basic
  | extended
  | all
deriving Repr, DecidableEq, Inhabited

namespace OptimizationLevel

/-- The number under which the native library knows a level. -/
def number : OptimizationLevel → Nat
  | .disable => 0
  | .basic => 1
  | .extended => 2
  | .all => 99

def name : OptimizationLevel → String
  | .disable => "disable"
  | .basic => "basic"
  | .extended => "extended"
  | .all => "all"

def ofName? (name : String) : Option OptimizationLevel :=
  [disable, basic, extended, all].find? fun level => level.name == name

def ofJson? (value : Json) : Option OptimizationLevel :=
  value.variantName?.bind ofName?

theorem ofName?_name (level : OptimizationLevel) : ofName? level.name = some level := by
  cases level <;> rfl

end OptimizationLevel

/-- One more than the largest thread count: the 16th power of two. -/
def threadLimit : Nat := 65536

/-- A thread count of zero leaves the choice to the native library. -/
structure SessionOptions where
  optimizationLevel : OptimizationLevel := .all
  intraOpThreads : Nat := 0
  interOpThreads : Nat := 0
deriving Repr, DecidableEq, Inhabited

namespace SessionOptions

def fieldNames : List String :=
  ["optimization_level", "intra_op_threads", "inter_op_threads"]

def ofJson? (value : Json) : Option SessionOptions := do
  let fields ← value.fields? fieldNames
  let optimizationLevel ← fields.withDefault "optimization_level" OptimizationLevel.ofJson? .all
  let intraOpThreads ← fields.withDefault "intra_op_threads" (Json.natural? threadLimit) 0
  let interOpThreads ← fields.withDefault "inter_op_threads" (Json.natural? threadLimit) 0
  return { optimizationLevel, intraOpThreads, interOpThreads }

def toJson (options : SessionOptions) : Json :=
  .record [
    ("optimization_level", .text options.optimizationLevel.name),
    ("intra_op_threads", .natural options.intraOpThreads),
    ("inter_op_threads", .natural options.interOpThreads)]

end SessionOptions

end TextVectors.Inference

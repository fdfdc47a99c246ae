import TextVectors.Inference.Error
import TextVectors.Inference.Native
import TextVectors.Log
import TextVectors.Text.Utf8

namespace TextVectors

/-! The state that every operation works on.

It holds the behaviour of the native library and a record of what has happened:
what was asked of the library, who still refers to a native environment, which
texts went to the tokenizer and the pre-processor, and what was logged.  All
records are newest first and only ever grow, apart from the list of references.
-/

/-- A question to a tokenizer or a pre-processor. -/
inductive Consultation where
  | encode (text : String)
  | decode (ids : List Nat) (skipSpecial : Bool)
  | preprocess (document : String)
deriving Repr, DecidableEq

structure Engine where
  behaviour : Inference.Behaviour
  history : Inference.History := []
  /-- One entry for each reference to a native environment. -/
  references : List Inference.Handle := []
  consultations : List Consultation := []
  log : List LogEntry := []

/-- An operation that cannot fail. -/
abbrev Step := StateM Engine

/-- An operation that can fail; what happened before the failure stays. -/
abbrev Action (ε : Type) := EStateM ε Engine

instance : MonadLift Step (Action ε) where
  monadLift step := fun engine => let (value, after) := step engine; .ok value after

/-- Runs an operation and hands over its failure as a value. -/
def attempt (action : Action ε α) : Step (Except ε α) := fun engine =>
  match action engine with
  | .ok value after => (.ok value, after)
  | .error error after => (.error error, after)

/-- Lets an operation end as a computed result says. -/
def ofExcept (result : Except ε α) : Action ε α := fun engine =>
  match result with
  | .ok value => .ok value engine
  | .error error => .error error engine

/-- The same operation with its failures seen from outside. -/
def mapFailure (wrap : ε → ε') (action : Action ε α) : Action ε' α := fun engine =>
  match action engine with
  | .ok value after => .ok value after
  | .error error after => .error (wrap error) after

namespace Engine

def record (event : Inference.Event) : Step Unit :=
  modify fun engine => { engine with history := event :: engine.history }

def consult (consultation : Consultation) : Step Unit :=
  modify fun engine => { engine with consultations := consultation :: engine.consultations }

instance : MonadNote Step where
  note severity text := modify fun engine => { engine with log := ⟨severity, text⟩ :: engine.log }

instance : MonadNote (Action ε) where
  note severity text := (note severity text : Step Unit)

open Inference

/-- Calls a function of the native library.  A failure's status is read and
released at once; otherwise the answer is the object handed out, if any. -/
def request (call : Call) : Action RuntimeError (Option Handle) := do
  let engine ← get
  let function := call.function
  match engine.behaviour.answer function (engine.history.callCount function + 1) with
  | .failure code text =>
      let status := engine.history.fresh .status
      record (.called call (.failed status))
      record (.readCode status)
      record (.readMessage status)
      record (.released status)
      throw (.native function.name (.ofInt code) (Text.ofTerminated text))
  | answer =>
      match call.creates with
      | none => record (.called call .done); return none
      | some kind =>
          if answer = .null then
            record (.called call .null)
            return none
          else
            let handle := engine.history.fresh kind
            record (.called call (.created handle))
            return some handle

/-- What the next run leaves in its outputs, whether or not it succeeds. -/
def effectOf (engine : Engine) (call : Call) : RunEffect where
  fill := engine.behaviour.fill (engine.history.callCount .run + 1) call

/-- Runs a session. -/
def requestRun (call : Call) : Action FailedRun RunEffect := do
  let effect := (← get).effectOf call
  let _ ← mapFailure (fun error => ⟨error, effect⟩) (request call)
  return effect

def release (handle : Handle) : Step Unit :=
  record (.released handle)

/-- What a record that grows in front has gained since an earlier state, oldest
first. -/
def gained (before after : List α) : List α :=
  (after.take (after.length - before.length)).reverse

theorem gained_append (before newer : List α) :
    gained before (newer ++ before) = newer.reverse := by
  simp [gained]

def eventsSince (after before : Engine) : List Event :=
  gained before.history after.history

theorem eventsSince_append {after before : Engine} {newer : History}
    (grown : after.history = newer ++ before.history) :
    after.eventsSince before = newer.reverse := by
  rw [eventsSince, grown, gained_append]

theorem eventsSince_same {after before : Engine} (same : after.history = before.history) :
    after.eventsSince before = [] := by
  rw [eventsSince, same]
  exact gained_append before.history []

def consultationsSince (after before : Engine) : List Consultation :=
  gained before.consultations after.consultations

def messagesSince (after before : Engine) : List LogEntry :=
  gained before.log after.log

end Engine

end TextVectors

import TextVectors.Proofs.Execution

namespace TextVectors.Engine

/-! The four ways in which a call to the library ends. -/

open Inference

variable {engine : Engine} {call : Call} {kind : ObjectKind} {code : Int}
variable {text : Option (List UInt8)}

def recorded (engine : Engine) (event : Event) : Engine :=
  { engine with history := event :: engine.history }

/-- The answer to the next call of a function. -/
def nextAnswer (engine : Engine) (function : NativeFunction) : Answer :=
  engine.behaviour.answer function (engine.history.callCount function + 1)

theorem request_failure (answered : engine.nextAnswer call.function = .failure code text) :
    let status := engine.history.fresh .status
    request call engine =
      .error (.native call.function.name (.ofInt code) (Text.ofTerminated text))
        ((((engine.recorded (.called call (.failed status))).recorded
          (.readCode status)).recorded (.readMessage status)).recorded (.released status)) := by
  rw [request, get_bind_apply]
  rw [nextAnswer] at answered
  rw [answered]
  rfl

theorem request_done (answered : ∀ code text, engine.nextAnswer call.function ≠ .failure code text)
    (nothing : call.creates = none) :
    request call engine = .ok none (engine.recorded (.called call .done)) := by
  rw [request, get_bind_apply]
  cases answer : engine.behaviour.answer call.function
      (engine.history.callCount call.function + 1) with
  | failure code text => exact absurd answer (answered code text)
  | success =>
      rw [nothing]
      rfl
  | null =>
      rw [nothing]
      rfl

theorem request_null (answered : engine.nextAnswer call.function = .null)
    (creating : call.creates = some kind) :
    request call engine = .ok none (engine.recorded (.called call .null)) := by
  rw [request, get_bind_apply]
  rw [nextAnswer] at answered
  rw [answered, creating]
  rfl

theorem request_created (answered : engine.nextAnswer call.function = .success)
    (creating : call.creates = some kind) :
    request call engine = .ok (some (engine.history.fresh kind))
      (engine.recorded (.called call (.created (engine.history.fresh kind)))) := by
  rw [request, get_bind_apply]
  rw [nextAnswer] at answered
  rw [answered, creating]
  rfl

/-- A call fails, or it is recorded with what it hands out. -/
theorem request_cases (call : Call) (engine : Engine) :
    (∃ code text, engine.nextAnswer call.function = .failure code text) ∨
      ∃ outcome, (∀ status, outcome ≠ .failed status) ∧
        (call.creates = none → outcome = .done) ∧
        request call engine =
          .ok (Event.called call outcome).created? (engine.recorded (.called call outcome)) := by
  cases answered : engine.nextAnswer call.function with
  | failure code text => exact .inl ⟨code, text, rfl⟩
  | success =>
      cases creating : call.creates with
      | none =>
          exact .inr ⟨.done, nofun, fun _ => rfl, request_done (by simp [answered]) creating⟩
      | some kind =>
          exact .inr ⟨.created (engine.history.fresh kind), nofun, nofun,
            request_created answered creating⟩
  | null =>
      cases creating : call.creates with
      | none =>
          exact .inr ⟨.done, nofun, fun _ => rfl, request_done (by simp [answered]) creating⟩
      | some kind => exact .inr ⟨.null, nofun, nofun, request_null answered creating⟩

/-- A run is a call, and either end says what it leaves in the outputs. -/
theorem requestRun_apply (call : Call) (engine : Engine) :
    requestRun call engine =
      match request call engine with
      | .ok _ after => .ok (engine.effectOf call) after
      | .error error after => .error ⟨error, engine.effectOf call⟩ after := by
  rw [requestRun, get_bind_apply]
  simp only [bind, EStateM.bind, mapFailure]
  cases request call engine <;> rfl

theorem requestRun_attains {before after : Engine → Prop} {failed : RuntimeError → Engine → Prop}
    (attained : Attains before (request call) (fun _ => after) failed) :
    Attains before (requestRun call) (fun _ => after) fun cause => failed cause.error := by
  intro engine holds
  have reached := attained engine holds
  rw [requestRun_apply]
  cases ended : request call engine <;> rw [ended] at reached <;> exact reached

end TextVectors.Engine

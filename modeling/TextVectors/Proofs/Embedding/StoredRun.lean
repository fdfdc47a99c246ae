import TextVectors.Embedding.Run
import TextVectors.Proofs.Execution

namespace TextVectors

/-! What a run changes of a batch session, and how it is put back.

The output takes whatever the run leaves in it, and the batch session is put back with that before
a failure is looked at.
-/

open Inference

namespace BatchSession

variable {bundle : BatchSession}

/-- What a run may change: the cells of the output, which stay as many. -/
def Refilled (bundle changed : BatchSession) : Prop :=
  ∃ cells, cells.length = bundle.output.cells.length ∧
    changed = { bundle with output := { bundle.output with cells } }

theorem run_refilled (bundle : BatchSession) (engine : Engine) :
    bundle.Refilled (bundle.run engine).1.2 :=
  ⟨_, RunEffect.length_apply _ 0 bundle.output.cells, rfl⟩

/-- A run ends as that of the session on the token buffers. -/
theorem run_ensures {before after : Engine → Prop} (failed : RuntimeError → Engine → Prop)
    (attained : Attains before (bundle.session.run bundle.operands [bundle.output.value])
      (fun _ => after) fun cause => failed cause.error) :
    Ensures before bundle.run fun outcome engine =>
      match outcome.1 with
      | .ok _ => after engine
      | .error error => failed error engine := by
  refine Ensures.bind attained.ensures_attempt fun ran => .ofPure fun engine reached => ?_
  cases ran with
  | ok effect => exact reached
  | error cause => exact reached

theorem run_leaves {before after : Engine → Prop}
    (attained : Attains before (bundle.session.run bundle.operands [bundle.output.value])
      (fun _ => after) fun _ => after) : Ensures before bundle.run fun _ => after := by
  intro engine holds
  have reached := run_ensures (fun _ => after) attained engine holds
  dsimp only at reached
  split at reached <;> exact reached

namespace Refilled

variable {changed : BatchSession}

theorem batch (refilled : bundle.Refilled changed) : changed.batch = bundle.batch := by
  obtain ⟨cells, -, rfl⟩ := refilled
  rfl

theorem session (refilled : bundle.Refilled changed) : changed.session = bundle.session := by
  obtain ⟨cells, -, rfl⟩ := refilled
  rfl

end Refilled

end BatchSession

namespace EmbedAction

/-- A run is stored with what it left in the output, and then ends as it did. -/
theorem runStored_apply (bundle : BatchSession) (runContext : String) (state : EmbedState) :
    runStored bundle runContext state =
      let (ran, changed) := (bundle.run state.engine).1
      let after : EmbedState := {
        state with
        sessions := state.sessions.update changed.batch changed
        engine := (bundle.run state.engine).2 }
      match ran with
      | .ok _ => .ok changed after
      | .error error => .error (.context runContext (.runtime error)) after := by
  simp only [runStored, bind, EStateM.bind, ofStep]
  rcases bundle.run state.engine with ⟨⟨_ | _, changed⟩, engine⟩ <;> rfl

theorem runStored_ends {bundle : BatchSession} {runContext : String} {state : EmbedState}
    {good : BatchSession → EmbedState → Prop} {failed : EmbeddingError → EmbedState → Prop}
    (stored : ∀ changed, bundle.Refilled changed →
      let after : EmbedState := {
        state with
        sessions := state.sessions.update changed.batch changed
        engine := (bundle.run state.engine).2 }
      ((bundle.run state.engine).1.1 = .ok () → good changed after) ∧
      ∀ error, (bundle.run state.engine).1.1 = .error error →
        failed (.context runContext (.runtime error)) after) :
    EndsIn good failed (runStored bundle runContext state) := by
  obtain ⟨well, badly⟩ := stored _ (bundle.run_refilled state.engine)
  rw [runStored_apply]
  rcases ended : bundle.run state.engine with ⟨⟨error | _, changed⟩, engine⟩ <;>
    rw [ended] at well badly
  · exact badly error rfl
  · exact well rfl

end EmbedAction

end TextVectors

import TextVectors.Inference.Session
import TextVectors.Proofs.Execution
import TextVectors.Proofs.Native.Request

namespace TextVectors

/-! What can be expected of the library from some moment on.

An obliging library answers every call with success, and whatever session of a model it runs,
what it writes is a function of the buffers that it is handed.  Facts about the library are
steady when nothing but a run can change them.
-/

open Inference

/-- Buffers with the names that a session gives to them. -/
abbrev NamedBuffers := List (String × Contents)

namespace Inference

/-- The buffers that a run is handed. -/
def Event.handed? : Event → Option NamedBuffers
  | .called (.run _ inputs _) _ => some (inputs.map fun input => (input.1.name, input.2))
  | _ => none

namespace History

/-- The buffers of all runs, newest first. -/
def handed (history : History) : List NamedBuffers :=
  history.filterMap Event.handed?

def MadeFor (history : History) (model : String) (handle : Handle) : Prop :=
  ∃ environment options,
    .called (.createSession environment model options) (.created handle) ∈ history

/-- How many objects of a kind came into being. -/
def countOf (history : History) (kind : ObjectKind) : Nat :=
  history.created.countP (·.kind == kind)

/-- An object that is still to come. -/
def Unmade (history : History) (handle : Handle) : Prop :=
  history.countOf handle.kind < handle.number

/-- An event that hands nothing to a run.  What it creates is the next object of its kind. -/
structure Quiet (history : History) (event : Event) : Prop where
  handed : event.handed? = none
  numbered : ∀ handle, event.created? = some handle → handle = history.fresh handle.kind

theorem Quiet.plain {history : History} {event : Event} (handed : event.handed? = none)
    (nothing : event.created? = none) : history.Quiet event :=
  ⟨handed, fun handle made => by rw [nothing] at made; cases made⟩

theorem MadeFor.recorded {history : History} {model : String} {handle : Handle}
    (made : history.MadeFor model handle) (event : Event) :
    MadeFor (event :: history) model handle := by
  obtain ⟨environment, options, member⟩ := made
  exact ⟨environment, options, List.mem_cons_of_mem _ member⟩

theorem MadeFor.append {history : History} {model : String} {handle : Handle}
    (made : history.MadeFor model handle) (newer : History) :
    MadeFor (newer ++ history) model handle := by
  obtain ⟨environment, options, member⟩ := made
  exact ⟨environment, options, List.mem_append_right _ member⟩

theorem countOf_le_recorded (history : History) (event : Event) (kind : ObjectKind) :
    history.countOf kind ≤ countOf (event :: history) kind := by
  unfold countOf created
  rw [List.filterMap_cons]
  split
  · exact Nat.le_refl _
  · rw [List.countP_cons]
    exact Nat.le_add_right _ _

theorem callCount_le_recorded (history : History) (event : Event) (function : NativeFunction) :
    history.callCount function ≤ callCount (event :: history) function := by
  unfold callCount
  rw [List.countP_cons]
  exact Nat.le_add_right _ _

end History

end Inference

/-- The buffers that runs were handed since an earlier state, in their order. -/
def Engine.handedSince (after before : Engine) : List NamedBuffers :=
  (after.eventsSince before).filterMap Event.handed?

theorem Engine.handedSince_append {after before : Engine} {newer : History}
    (grown : after.history = newer ++ before.history) :
    after.handedSince before = newer.handed.reverse := by
  rw [handedSince, eventsSince_append grown, List.filterMap_reverse, History.handed]

/-- From now on every call succeeds. -/
def Engine.Willing (engine : Engine) : Prop :=
  ∀ function number, engine.history.callCount function < number →
    engine.behaviour.answer function number = .success

namespace Engine.Willing

variable {engine after : Engine}

theorem congr (willing : engine.Willing) (history : after.history = engine.history)
    (behaviour : after.behaviour = engine.behaviour) : after.Willing := by
  unfold Willing
  rw [history, behaviour]
  exact willing

theorem recorded (willing : engine.Willing) (event : Event) : (engine.recorded event).Willing :=
  fun function number later => willing function number
    (Nat.lt_of_le_of_lt (History.callCount_le_recorded _ event function) later)

theorem answers (willing : engine.Willing) (function : NativeFunction) :
    engine.nextAnswer function = .success :=
  willing function _ (Nat.lt_succ_self _)

end Engine.Willing

/-- The sessions of a model are those that were made for it, and those that are still to be
made. -/
structure Engine.Obliging (model : String) (compute : NamedBuffers → Nat → Float32)
    (engine : Engine) : Prop where
  succeeds : ∀ function number, engine.history.callCount function < number →
    engine.behaviour.answer function number = .success
  computes : ∀ number session inputs outputs cell old, engine.history.callCount .run < number →
    (engine.history.MadeFor model session ∨ engine.history.Unmade session) →
    engine.behaviour.fill number (.run session inputs outputs) 0 cell .float old =
      compute (inputs.map fun input => (input.1.name, input.2)) cell

namespace Engine.Obliging

variable {model : String} {compute : NamedBuffers → Nat → Float32} {engine after : Engine}
variable {event : Event}

theorem congr (obliging : engine.Obliging model compute)
    (history : after.history = engine.history) (behaviour : after.behaviour = engine.behaviour) :
    after.Obliging model compute := by
  constructor
  · rw [history, behaviour]
    exact obliging.succeeds
  · rw [history, behaviour]
    exact obliging.computes

theorem recorded (obliging : engine.Obliging model compute)
    (numbered : ∀ handle, event.created? = some handle →
      handle = engine.history.fresh handle.kind) :
    (engine.recorded event).Obliging model compute where
  succeeds function number later :=
    obliging.succeeds function number
      (Nat.lt_of_le_of_lt (History.callCount_le_recorded _ event function) later)
  computes number session inputs outputs cell old later owned := by
    refine obliging.computes number session inputs outputs cell old
      (Nat.lt_of_le_of_lt (History.callCount_le_recorded _ event .run) later) ?_
    rcases owned with ⟨environment, options, member⟩ | unmade
    · rcases List.mem_cons.mp member with rfl | former
      · right
        rw [numbered session rfl]
        exact Nat.lt_succ_self _
      · exact .inl ⟨environment, options, former⟩
    · exact .inr (Nat.lt_of_le_of_lt (History.countOf_le_recorded _ event session.kind) unmade)

end Engine.Obliging

/-- A condition that survives everything but runs.  Where calls cannot fail under it, the answer
to the next call is success. -/
structure Steady (fails : Prop) (holds : Engine → Prop) : Prop where
  recorded : ∀ {engine} (event), holds engine → engine.history.Quiet event →
    holds (engine.recorded event)
  congr : ∀ {engine after}, holds engine → after.history = engine.history →
    after.behaviour = engine.behaviour → holds after
  answers : ∀ {engine}, holds engine → ¬ fails → ∀ function, engine.nextAnswer function = .success

theorem Steady.madeFor {fails : Prop} {holds : Engine → Prop} (steady : Steady fails holds)
    (model : String) (chosen : Handle → Prop) :
    Steady fails fun engine =>
      holds engine ∧ ∀ handle, chosen handle → engine.history.MadeFor model handle where
  recorded event held quiet :=
    ⟨steady.recorded event held.1 quiet,
      fun handle isChosen => (held.2 handle isChosen).recorded event⟩
  congr held history behaviour := by
    refine ⟨steady.congr held.1 history behaviour, ?_⟩
    rw [history]
    exact held.2
  answers held := steady.answers held.1

section Steps

variable {fails : Prop} {holds : Engine → Prop} {ε : Type} {call : Call} {kind : ObjectKind}

theorem note_steady (steady : Steady fails holds) (severity : Severity) (text : String) :
    Ensures holds (note severity text : Step Unit) fun _ => holds :=
  fun _ held => steady.congr held rfl rfl

theorem release_steady (steady : Steady fails holds) (handle : Handle) :
    Ensures holds (Engine.release handle) fun _ => holds :=
  fun _ held => steady.recorded _ held (.plain rfl rfl)

theorem retain_steady (steady : Steady fails holds) (runtime : Runtime) :
    Ensures holds runtime.retain fun _ => holds :=
  fun _ held => steady.congr held rfl rfl

theorem letGo_steady (steady : Steady fails holds) (runtime : Runtime) :
    Ensures holds runtime.letGo fun _ => holds := by
  have last : Ensures holds (do
      Engine.release runtime.environment
      note .debug "Released ONNX Runtime environment") fun _ => holds :=
    (release_steady steady _).bind fun _ => note_steady steady _ _
  intro engine held
  have erased : holds { engine with references := engine.references.erase runtime.environment } :=
    steady.congr held rfl rfl
  simp only [Runtime.letGo, bind_apply]
  split
  · exact last _ erased
  · exact erased

/-- A failure leaves a status behind, which is released at once. -/
theorem request_failed (steady : Steady fails holds) (quiet : ∀ outcome,
    (Event.called call outcome).handed? = none) {engine : Engine} (held : holds engine)
    {code : Int} {text : Option (List UInt8)}
    (answered : engine.nextAnswer call.function = .failure code text) :
    EndsIn (fun (_ : Option Handle) _ => False) (fun _ after => holds after ∧ fails)
      (Engine.request call engine) := by
  rw [Engine.request_failure answered]
  constructor
  · have numbered : ∀ handle, (Event.called call
        (.failed (engine.history.fresh .status))).created? = some handle →
          handle = engine.history.fresh handle.kind := by
      intro handle made
      cases made
      rfl
    have called := steady.recorded _ held ⟨quiet _, numbered⟩
    have read := steady.recorded (.readCode (engine.history.fresh .status)) called (.plain rfl rfl)
    have explained := steady.recorded (.readMessage (engine.history.fresh .status)) read
      (.plain rfl rfl)
    exact steady.recorded _ explained (.plain rfl rfl)
  · refine Classical.byContradiction fun reliable => ?_
    have answer := steady.answers held reliable call.function
    rw [answered] at answer
    cases answer

/-- A call that hands out an object of a kind. -/
theorem request_creates (steady : Steady fails holds) (creating : call.creates = some kind) :
    Attains holds (Engine.request call)
      (fun value engine => holds engine ∧ (value = none → fails) ∧
        ∀ handle, value = some handle → .called call (.created handle) ∈ engine.history)
      (fun _ engine => holds engine ∧ fails) := by
  intro engine held
  have quiet : ∀ outcome, (Event.called call outcome).handed? = none := by
    intro outcome
    cases call <;> first | rfl | cases creating
  cases answered : engine.nextAnswer call.function with
  | failure code text =>
      have ended := request_failed steady quiet held answered
      cases reached : Engine.request call engine <;> rw [reached] at ended
      · cases ended
      · exact ended
  | null =>
      rw [Engine.request_null answered creating]
      refine ⟨steady.recorded _ held (.plain (quiet _) rfl), fun _ => ?_, ?_⟩
      · refine Classical.byContradiction fun reliable => ?_
        have answer := steady.answers held reliable call.function
        rw [answered] at answer
        cases answer
      · intro handle absurd
        cases absurd
  | success =>
      rw [Engine.request_created answered creating]
      refine ⟨steady.recorded _ held ⟨quiet _, ?_⟩, ?_, ?_⟩
      · intro handle made
        cases made
        rfl
      · intro absurd
        cases absurd
      · intro handle same
        cases same
        exact List.mem_cons_self

/-- A call that only changes a setting. -/
theorem request_sets (steady : Steady fails holds) (nothing : call.creates = none)
    (quiet : ∀ outcome, (Event.called call outcome).handed? = none) :
    Attains holds (Engine.request call) (fun _ => holds)
      (fun _ engine => holds engine ∧ fails) := by
  intro engine held
  have done (answered : ∀ code text, engine.nextAnswer call.function ≠ .failure code text) :
      EndsIn (fun _ => holds) (fun _ engine => holds engine ∧ fails)
        (Engine.request call engine) := by
    rw [Engine.request_done answered nothing]
    exact steady.recorded _ held (.plain (quiet _) rfl)
  cases answered : engine.nextAnswer call.function with
  | failure code text =>
      have ended := request_failed steady quiet held answered
      cases reached : Engine.request call engine <;> rw [reached] at ended
      · cases ended
      · exact ended
  | null => exact done (by simp [answered])
  | success => exact done (by simp [answered])

end Steps

end TextVectors

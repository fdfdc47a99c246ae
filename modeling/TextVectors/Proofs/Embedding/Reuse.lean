import Mathlib.Algebra.Order.Group.Multiset
import TextVectors.Proofs.Cache.Custody
import TextVectors.Proofs.Embedding.Buffers
import TextVectors.Proofs.Embedding.Plan
import TextVectors.Proofs.Native.BatchSession

namespace TextVectors

/-! Cached batch sessions suit every later batch of their size.

What is cached has the sizes that a new batch session would have, and a session that was made
for the same model.  Whether a batch finds a session or creates one makes no difference then,
however the session was left.
-/

open Inference

/-- A model as an embedder uses it: how it is bound, the shape of its output for each batch
size, and what it computes. -/
structure BoundModel where
  binding : ModelBinding
  outputShape : Nat → Except EmbeddingError (List Int)
  compute : NamedBuffers → Nat → Float32

/-- What is known of the library: nothing, that all calls succeed, or that it obliges from some
moment on, with the buffers that it was handed since, newest first. -/
inductive Outlook where
  | unknown
  | willing
  | obliging (start : History) (handed : List NamedBuffers)

namespace BoundModel

variable {model : BoundModel} {outlook : Outlook} {batch : Nat} {bundle : BatchSession}

def source (model : BoundModel) (host : Host) (runtime : Runtime) : EmbedAction.Source :=
  ⟨host, runtime, model.binding, model.outputShape⟩

/-- The sizes of a token tensor and of the output, or the error with which creating the session
of a batch ends. -/
def sizes (model : BoundModel) (batch : Nat) : Except EmbeddingError (Nat × Nat) := do
  let shape ← model.outputShape batch
  BatchSession.plan model.binding true batch shape

/-- A live batch session as it would be created for a batch size, whatever its buffers hold. -/
structure Fits (model : BoundModel) (batch : Nat) (bundle : BatchSession) : Prop where
  formed : BatchSession.Formed model.binding batch bundle
  live : bundle.session.handle.isSome
  sized : model.sizes batch = .ok (bundle.ids.cells.length, bundle.output.cells.length)

/-- The library is as it is known to be. -/
def Met (model : BoundModel) : Outlook → Engine → Prop
  | .unknown, _ => True
  | .willing, engine => engine.Willing
  | .obliging start handed, engine =>
      engine.Obliging model.binding.modelPath model.compute ∧
        ∃ newer, engine.history = newer ++ start ∧ History.handed newer = handed

theorem met_steady (model : BoundModel) (outlook : Outlook) :
    Steady (outlook = .unknown) (model.Met outlook) := by
  cases outlook with
  | unknown => exact ⟨fun _ _ _ => trivial, fun _ _ _ => trivial, fun _ known => absurd rfl known⟩
  | willing =>
      exact ⟨fun event willing _ => willing.recorded event, fun willing => willing.congr,
        fun willing _ => willing.answers⟩
  | obliging start handed =>
      refine ⟨?_, ?_, ?_⟩
      · intro engine event reached quiet
        obtain ⟨obliging, newer, grown, former⟩ := reached
        refine ⟨obliging.recorded quiet.numbered, event :: newer, ?_, ?_⟩
        · exact congrArg (event :: ·) grown
        · rw [History.handed, List.filterMap_cons, quiet.handed]
          exact former
      · intro engine after reached history behaviour
        obtain ⟨obliging, newer, grown, former⟩ := reached
        exact ⟨obliging.congr history behaviour, newer, history.trans grown, former⟩
      · intro engine reached _ function
        obtain ⟨obliging, -⟩ := reached
        exact obliging.succeeds function _ (Nat.lt_succ_self _)

/-- What is known outlasts every event, runs included. -/
def Lasts (model : BoundModel) (outlook : Outlook) : Prop :=
  ∀ engine event, model.Met outlook engine → model.Met outlook (engine.recorded event)

theorem lasts_unknown (model : BoundModel) : model.Lasts .unknown :=
  fun _ _ _ => trivial

theorem lasts_willing (model : BoundModel) : model.Lasts .willing :=
  fun _ event willing => Engine.Willing.recorded willing event

/-- All cached sessions were made for the model. -/
def custody (model : BoundModel) (outlook : Outlook) :
    Custody Engine BatchSession (Multiset Handle) where
  accounts engine sessions := model.Met outlook engine ∧
    ∀ handle, handle ∈ sessions → engine.history.MadeFor model.binding.modelPath handle
  share bundle := bundle.session.handle.toList
  fits := model.Fits
  refuses batch error := outlook = .unknown ∨ model.sizes batch = .error error
  sticks _ := False

theorem accounts_steady (model : BoundModel) (outlook : Outlook) (sessions : Multiset Handle) :
    Steady (outlook = .unknown) fun engine => (model.custody outlook).accounts engine sessions :=
  (model.met_steady outlook).madeFor model.binding.modelPath (· ∈ sessions)

theorem present_of_plan {binding : ModelBinding} {present : Bool} {shape : List Int}
    {sizes : Nat × Nat} (planned : BatchSession.plan binding present batch shape = .ok sizes) :
    present = true := by
  obtain ⟨rows, -, planned⟩ := ok_of_bind planned
  obtain ⟨columns, -, planned⟩ := ok_of_bind planned
  obtain ⟨tokens, -, planned⟩ := ok_of_bind planned
  obtain ⟨cells, -, planned⟩ := ok_of_bind planned
  obtain ⟨bound, sampled, -⟩ := ok_of_bind planned
  cases accepted : (BatchSession.sampleRequest binding).bindings present with
  | ok bound => exact (present_of_bindings accepted).1
  | error fault =>
      rw [accepted] at sampled
      cases sampled

theorem create_attains {holds : Engine → Prop} (steady : Steady (outlook = .unknown) holds)
    (host : Host) (runtime : Runtime) (batch : Nat)
    (usable : outlook ≠ .unknown → host.files.present model.binding.modelPath = true) :
    Attains holds ((model.source host runtime).create batch)
      (fun bundle engine => holds engine ∧ model.Fits batch bundle ∧
        ∀ handle, bundle.session.handle = some handle →
          engine.history.MadeFor model.binding.modelPath handle)
      (fun error engine => holds engine ∧
        (outlook = .unknown ∨ model.sizes batch = .error error)) := by
  have shaped : Obtains (outlook = .unknown) holds (TextVectors.ofExcept (model.outputShape batch))
      (fun shape => model.outputShape batch = .ok shape)
      (fun error => model.sizes batch = .error error) := by
    refine (Obtains.ofExcept _).weaken (fun _ found => found) fun error failed => ?_
    rw [sizes, failed]
    rfl
  refine shaped.bindAttains fun shape found => ?_
  refine Attains.weaken (BatchSession.create_attains steady host runtime model.binding batch shape)
    ?_ ?_
  · intro bundle engine reached
    obtain ⟨held, formed, planned, handle, live, made⟩ := reached
    have present := present_of_plan planned
    rw [present] at planned
    refine ⟨held, ⟨formed, by rw [live]; rfl, ?_⟩, ?_⟩
    · rw [sizes, found]
      exact planned
    · intro other same
      rw [live] at same
      cases same
      exact made
  · intro error engine reached
    obtain ⟨held, why⟩ := reached
    refine ⟨held, ?_⟩
    by_cases known : outlook = .unknown
    · exact .inl known
    · right
      rcases why with unknown | planned
      · exact absurd unknown known
      · rw [usable known] at planned
        rw [sizes, found]
        exact planned

theorem custody_lawful (host : Host) (runtime : Runtime)
    (usable : outlook ≠ .unknown → host.files.present model.binding.modelPath = true) :
    (model.custody outlook).Lawful (model.source host runtime).actions where
  noted severity text vouched :=
    note_steady (model.accounts_steady outlook _) severity text _ vouched
  created := by
    intro batch engine given result after vouched ran
    have steady := model.accounts_steady outlook given
    have reached := (create_attains steady host runtime batch usable).ensures_attempt engine vouched
    change attempt ((model.source host runtime).create batch) engine = (result, after) at ran
    rw [ran] at reached
    cases result with
    | ok bundle =>
        obtain ⟨⟨met, former⟩, suited, made⟩ := reached
        refine .inl ⟨bundle, rfl, suited, met, fun handle member => ?_⟩
        rcases Multiset.mem_add.mp member with own | others
        · exact made handle (by simpa [custody] using own)
        · exact former handle others
    | error error =>
        obtain ⟨kept, why⟩ := reached
        exact .inr ⟨error, rfl, why, kept⟩
  destroyed := by
    intro batch bundle engine given result after suited vouched ran
    have fewer : (model.custody outlook).accounts engine given :=
      ⟨vouched.1, fun handle member => vouched.2 handle (Multiset.mem_add.mpr (.inr member))⟩
    have gone := dispose_steady (model.accounts_steady outlook given) bundle engine fewer
    cases ran
    exact ⟨gone, nofun⟩

end BoundModel

namespace BatchSession

variable {bundle : BatchSession} {buffers : TokenBuffers}

theorem buffers_setBuffers (same : buffers.clear = bundle.buffers.clear) :
    (bundle.setBuffers buffers).buffers = buffers := by
  obtain ⟨batch, length, ids, mask, types, output, session⟩ := bundle
  obtain ⟨idCells, maskCells, typeCells⟩ := buffers
  have typed := congrArg (fun buffers => buffers.types.isSome) same
  cases types <;> cases typeCells <;> first | rfl | cases typed

theorem inputValues_setBuffers (bundle : BatchSession) (buffers : TokenBuffers) :
    (bundle.setBuffers buffers).inputValues = bundle.inputValues := by
  rcases setBuffers_types bundle buffers with same | ⟨tensor, cells, typed, changed⟩
  · rw [inputValues, same]
    rfl
  · rw [inputValues, changed, inputValues, typed]
    rfl

end BatchSession

namespace TokenBuffers

/-- Buffers of zeros. -/
def blank (typed : Bool) (count : Nat) : TokenBuffers where
  ids := List.replicate count 0
  mask := List.replicate count 0
  types := if typed then some (List.replicate count 0) else none

theorem clear_eq_blank {buffers : TokenBuffers} {count : Nat} (sized : buffers.Sized count) :
    buffers.clear = blank buffers.types.isSome count := by
  obtain ⟨ids, mask, types⟩ := buffers
  have idCells : ids.length = count := sized.ids
  have maskCells : mask.length = count := sized.mask
  cases types with
  | none => simp [clear, zeroed, blank, idCells, maskCells]
  | some types =>
      have typeCells : types.length = count := sized.types types rfl
      simp [clear, zeroed, blank, idCells, maskCells, typeCells]

/-- The buffers in the order in which a model reads them. -/
def contents (buffers : TokenBuffers) : List Contents :=
  ⟨.int64, buffers.ids⟩ :: ⟨.int64, buffers.mask⟩ ::
    (buffers.types.map fun types => (⟨.int64, types⟩ : Contents)).toList

end TokenBuffers

namespace BoundModel

variable {model : BoundModel} {batch tokens outputs : Nat} {bundle : BatchSession}
variable {buffers : TokenBuffers}

/-- The buffers under the names of the model. -/
def named (model : BoundModel) (buffers : TokenBuffers) : NamedBuffers :=
  model.binding.inputNames.zip buffers.contents

namespace Fits

/-- Nothing but the sizes is left of the buffers once they are cleared. -/
theorem cleared (fits : model.Fits batch bundle)
    (sized : model.sizes batch = .ok (tokens, outputs)) :
    bundle.buffers.clear = .blank model.binding.usesTokenTypes tokens := by
  rw [fits.sized] at sized
  cases sized
  have typed : bundle.buffers.types.isSome = model.binding.usesTokenTypes := by
    rw [BatchSession.buffers, Option.isSome_map, fits.formed.typed]
  rw [TokenBuffers.clear_eq_blank fits.formed.sized, typed]

theorem setBuffers (fits : model.Fits batch bundle) (same : buffers.clear = bundle.buffers.clear) :
    model.Fits batch (bundle.setBuffers buffers) := by
  have formed := fits.formed
  have kept := TokenBuffers.sized_of_clear formed.sized same
  have idsSame : (bundle.setBuffers buffers).ids.cells.length = bundle.ids.cells.length := kept.ids
  have typesSame : (bundle.setBuffers buffers).types.isSome = bundle.types.isSome := by
    rcases BatchSession.setBuffers_types bundle buffers with equal | ⟨tensor, cells, typed, changed⟩
    · rw [equal]
    · rw [typed, changed]
      rfl
  refine ⟨?_, fits.live, ?_⟩
  · refine ⟨formed.batch, formed.sequenceLength, ?_, typesSame.trans formed.typed, ?_,
      formed.output⟩
    · rw [BatchSession.buffers_setBuffers same, idsSame]
      exact kept
    · rw [BatchSession.inputValues_setBuffers]
      exact formed.inputs
  · rw [idsSame]
    exact fits.sized

theorem refilled {changed : BatchSession} (fits : model.Fits batch bundle)
    (refilled : bundle.Refilled changed) : model.Fits batch changed := by
  obtain ⟨cells, same, rfl⟩ := refilled
  obtain ⟨⟨batch, length, sized, typed, inputs, output⟩, live, planned⟩ := fits
  refine ⟨⟨batch, length, sized, typed, inputs, output⟩, live, ?_⟩
  rw [planned]
  exact congrArg (fun length => Except.ok (bundle.ids.cells.length, length)) same.symm

end Fits

end BoundModel

end TextVectors

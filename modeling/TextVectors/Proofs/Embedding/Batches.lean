import TextVectors.Proofs.Embedding.Regular

namespace TextVectors

/-! Running a batch comes out the same on a cached session as on a new one. -/

open Inference

/-- Filling a batch session of a size and a length writes its token buffers and leaves the rest
of it alone. -/
structure Writes (batch length : Nat)
    (fill : BatchSession → Except EmbeddingError Unit × BatchSession)
    (write : TokenBuffers → Except EmbeddingError Unit × TokenBuffers) : Prop where
  overwrites : TokenBuffers.Overwrites write
  fills : ∀ bundle : BatchSession, bundle.batch = batch → bundle.sequenceLength = length →
    fill bundle = ((write bundle.buffers).1, bundle.setBuffers (write bundle.buffers).2)

/-- A batch of a size that differs from the number of rows is refused. -/
theorem refuses_overwrites (error : EmbeddingError) :
    TokenBuffers.Overwrites fun buffers => (.error error, buffers) :=
  ⟨fun _ => rfl, nofun, fun _ => rfl⟩

theorem TokenBuffers.Overwrites.mapError {ε ε' : Type}
    {write : TokenBuffers → Except ε Unit × TokenBuffers} (overwrites : Overwrites write)
    (wrap : ε → ε') :
    Overwrites fun buffers => ((write buffers).1.mapError wrap, (write buffers).2) where
  result buffers := congrArg (Except.mapError wrap) (overwrites.result buffers)
  written buffers filled := overwrites.written buffers (ok_of_mapError filled)
  sizes := overwrites.sizes

/-- Encodings written into the buffers of a batch, which must have as many rows. -/
def writeEncodings (batch length : Nat) (encodings : List Encoding) (buffers : TokenBuffers) :
    Except EmbeddingError Unit × TokenBuffers :=
  if encodings.length = batch then buffers.fillEncodings length encodings
  else (.error (.invalidInput (.rowCount batch encodings.length)), buffers)

/-- Windows written into the buffers of a batch, which must have as many rows. -/
def writeWindows (batch length : Nat) (windows : List Window) (buffers : TokenBuffers) :
    Except EmbeddingError Unit × TokenBuffers :=
  if windows.length = batch then
    ((buffers.fillWindows length windows).1.mapError .invalidInput,
      (buffers.fillWindows length windows).2)
  else (.error (.invalidInput (.rowCount batch windows.length)), buffers)

theorem fillEncodings_writes (batch length : Nat) (encodings : List Encoding) :
    Writes batch length (fun bundle => bundle.fillEncodings encodings)
      (writeEncodings batch length encodings) := by
  by_cases rows : encodings.length = batch
  · have same : writeEncodings batch length encodings =
        fun buffers => buffers.fillEncodings length encodings := by
      funext buffers
      rw [writeEncodings, if_pos rows]
    rw [same]
    refine ⟨TokenBuffers.fillEncodings_overwrites length encodings, ?_⟩
    intro bundle sameBatch sameLength
    rw [BatchSession.fillEncodings, BatchSession.checkRows, if_pos (rows.trans sameBatch.symm),
      sameLength]
  · have same : writeEncodings batch length encodings =
        fun buffers => (.error (.invalidInput (.rowCount batch encodings.length)), buffers) := by
      funext buffers
      rw [writeEncodings, if_neg rows]
    rw [same]
    refine ⟨refuses_overwrites _, ?_⟩
    intro bundle sameBatch sameLength
    subst sameBatch
    rw [BatchSession.fillEncodings, BatchSession.checkRows, if_neg rows,
      bundle.setBuffers_buffers]

theorem fillWindows_writes (batch length : Nat) (windows : List Window) :
    Writes batch length (fun bundle => bundle.fillWindows windows)
      (writeWindows batch length windows) := by
  by_cases rows : windows.length = batch
  · have same : writeWindows batch length windows = fun buffers =>
        ((buffers.fillWindows length windows).1.mapError .invalidInput,
          (buffers.fillWindows length windows).2) := by
      funext buffers
      rw [writeWindows, if_pos rows]
    rw [same]
    refine ⟨(TokenBuffers.fillWindows_overwrites length windows).mapError EmbeddingError.invalidInput, ?_⟩
    intro bundle sameBatch sameLength
    rw [BatchSession.fillWindows, BatchSession.checkRows, if_pos (rows.trans sameBatch.symm),
      sameLength]
  · have same : writeWindows batch length windows =
        fun buffers => (.error (.invalidInput (.rowCount batch windows.length)), buffers) := by
      funext buffers
      rw [writeWindows, if_neg rows]
    rw [same]
    refine ⟨refuses_overwrites _, ?_⟩
    intro bundle sameBatch sameLength
    subst sameBatch
    rw [BatchSession.fillWindows, BatchSession.checkRows, if_neg rows, bundle.setBuffers_buffers]

namespace BoundModel

/-- The sizes of a batch session, or the error with which none is acquired. -/
def opened (model : BoundModel) (batch : Nat) : Except EmbeddingError (Nat × Nat) :=
  if batch = 0 then .error (.invalidInput .batchZero) else model.sizes batch

/-- The buffers that a batch is run on and the number of cells of its output, or the error with
which the batch ends before the run. -/
def prepared (model : BoundModel) (batch : Nat)
    (write : TokenBuffers → Except EmbeddingError Unit × TokenBuffers)
    (fillFailure : EmbeddingError → EmbeddingError) :
    Except EmbeddingError (TokenBuffers × Nat) := do
  let (tokens, outputs) ← model.opened batch
  let blank := TokenBuffers.blank model.binding.usesTokenTypes tokens
  (write blank).1.mapError fillFailure
  return ((write blank).2, outputs)

/-- What shows of running a batch: its output and its mask. -/
def ran (model : BoundModel) (batch : Nat)
    (write : TokenBuffers → Except EmbeddingError Unit × TokenBuffers)
    (fillFailure : EmbeddingError → EmbeddingError) : Transcript (List Float32 × List Int) := do
  let (buffers, outputs) ← .ofExcept (model.prepared batch write fillFailure)
  Transcript.hand (model.named buffers)
  return ((List.range outputs).map (model.compute (model.named buffers)), buffers.mask)

end BoundModel

namespace EmbedAction

variable {model : BoundModel} {tokenizer : Tokenizer} {outlook : Outlook} {host : Host}
variable {batch : Nat} {bundle changed : BatchSession}
variable {fill : BatchSession → Except EmbeddingError Unit × BatchSession}
variable {write : TokenBuffers → Except EmbeddingError Unit × TokenBuffers}

/-- Gets the session of a batch ready for a run. -/
def prepare (source : Source) (batch : Nat)
    (fill : BatchSession → Except EmbeddingError Unit × BatchSession)
    (fillFailure : EmbeddingError → EmbeddingError) : EmbedAction BatchSession := do
  let bundle ← acquire source batch
  store (fill bundle).2
  ofExcept ((fill bundle).1.mapError fillFailure)
  return (fill bundle).2

theorem runBatch_eq (source : Source) (fillFailure : EmbeddingError → EmbeddingError)
    (runContext : String) :
    runBatch source batch fill fillFailure runContext =
      prepare source batch fill fillFailure >>= fun bundle => runStored bundle runContext := by
  simp only [runBatch, prepare, bind_assoc, pure_bind]

/-- A state that is fit for use, with a batch session under its batch size. -/
structure Stored (model : BoundModel) (tokenizer : Tokenizer) (outlook : Outlook) (batch : Nat)
    (bundle : BatchSession) (state : EmbedState) : Prop where
  ready : Ready model tokenizer outlook state
  found : state.sessions.find? batch = some bundle

theorem Stored.fits {state : EmbedState}
    (stored : Stored model tokenizer outlook batch bundle state) : model.Fits batch bundle :=
  stored.ready.guarded.suited_of_find? stored.found

/-- Whether a session is cached or created, it is one that fits. -/
theorem acquire_reaches (runtime : Runtime) (batch : Nat)
    (usable : outlook ≠ .unknown → host.files.present model.binding.modelPath = true) :
    Attains (Ready model tokenizer outlook) (acquire (model.source host runtime) batch)
      (fun bundle state => Stored model tokenizer outlook batch bundle state ∧
        model.opened batch = .ok (bundle.ids.cells.length, bundle.output.cells.length))
      (fun error state => Ready model tokenizer outlook state ∧
        (outlook = .unknown ∨ model.opened batch = .error error)) := by
  intro state ready
  unfold acquire
  by_cases zero : batch = 0
  · rw [SessionCache.acquire, if_pos zero, BoundModel.opened, if_pos zero]
    exact ⟨⟨ready.guarded, ready.labelled⟩, .inr rfl⟩
  rw [BoundModel.opened, if_neg zero]
  cases ran : state.sessions.acquire (model.source host runtime).actions batch state.engine with
  | mk outcome engine =>
      obtain ⟨result, sessions⟩ := outcome
      obtain ⟨guarded, -, stored, failed⟩ :=
        ready.guarded.acquire (BoundModel.custody_lawful host runtime usable) ran
      cases result with
      | ok bundle =>
          have found := (stored bundle rfl).1
          exact ⟨⟨⟨guarded, ready.labelled⟩, found⟩, (guarded.suited_of_find? found).sized⟩
      | error error =>
          refine ⟨⟨guarded, ready.labelled⟩, ?_⟩
          rcases failed error rfl with absurd | refused | ⟨failure, sticky⟩
          · exact (zero absurd).elim
          · exact refused
          · exact sticky.elim

/-- A batch session that is put back may have other contents, but no other session. -/
theorem Stored.store {state : EmbedState}
    (stored : Stored model tokenizer outlook batch bundle state) (fits : model.Fits batch changed)
    (same : changed.session.handle = bundle.session.handle) :
    Stored model tokenizer outlook batch changed
      { state with sessions := state.sessions.update changed.batch changed } := by
  obtain ⟨ready, found⟩ := stored
  rw [fits.formed.batch]
  refine ⟨⟨ready.guarded.update found fits ?_, ready.labelled⟩, ?_⟩
  · exact congrArg (fun handle => (handle.toList : Multiset Handle)) same
  · exact SessionCache.find?_update
      (SessionCache.mem_keys_of_entry (SessionCache.mem_entries_of_find? found)) changed

theorem store_reaches (bundle : BatchSession) (fits : model.Fits batch changed)
    (same : changed.session.handle = bundle.session.handle)
    {failed : EmbeddingError → EmbedState → Prop} :
    Attains (Stored model tokenizer outlook batch bundle) (store changed)
      (fun _ => Stored model tokenizer outlook batch changed) failed :=
  Attains.ofModify fun _ stored => stored.store fits same

theorem prepare_reaches (writes : Writes batch model.binding.sequenceLength fill write)
    (runtime : Runtime) (fillFailure : EmbeddingError → EmbeddingError)
    (usable : outlook ≠ .unknown → host.files.present model.binding.modelPath = true) :
    Attains (Ready model tokenizer outlook)
      (prepare (model.source host runtime) batch fill fillFailure)
      (fun bundle state => Stored model tokenizer outlook batch bundle state ∧
        model.prepared batch write fillFailure =
          .ok (bundle.buffers, bundle.output.cells.length))
      (fun error state => Ready model tokenizer outlook state ∧
        (outlook = .unknown ∨ model.prepared batch write fillFailure = .error error)) := by
  refine Attains.bind (Attains.weaken (acquire_reaches runtime batch usable)
    (fun _ _ reached => reached) ?_) fun bundle => ?_
  · intro error state reached
    obtain ⟨ready, why⟩ := reached
    refine ⟨ready, why.imp_right fun failed => ?_⟩
    rw [BoundModel.prepared, failed]
    rfl
  intro state reached
  obtain ⟨stored, opened⟩ := reached
  have fits := stored.fits
  have formed := fits.formed
  have same := writes.overwrites.sizes bundle.buffers
  have planned : model.prepared batch write fillFailure = (do
      (write bundle.buffers).1.mapError fillFailure
      return ((write bundle.buffers.clear).2, bundle.output.cells.length)) := by
    rw [writes.overwrites.result, fits.cleared fits.sized, BoundModel.prepared, opened]
    rfl
  rw [planned, writes.fills bundle formed.batch formed.sequenceLength]
  -- The buffers are stored before the outcome is looked at, also where the filling failed.
  refine Attains.bind (store_reaches bundle (fits.setBuffers same) rfl) (fun _ => ?_) state stored
  intro state stored
  cases outcome : (write bundle.buffers).1 with
  | error error => exact ⟨stored.ready, .inr rfl⟩
  | ok _ =>
      refine ⟨stored, ?_⟩
      rw [BatchSession.buffers_setBuffers same, writes.overwrites.written _ outcome]
      rfl

/-- Where a run changes nothing of what is known, it leaves a state fit for use. -/
theorem runStored_kept (bundle : BatchSession) (runContext : String)
    (lasting : model.Lasts outlook) :
    Attains (Stored model tokenizer outlook batch bundle) (runStored bundle runContext)
      (fun changed state => Stored model tokenizer outlook batch changed state ∧
        bundle.Refilled changed)
      (fun _ => Ready model tokenizer outlook) := by
  intro state stored
  have guarded := stored.ready.guarded
  let holds (engine : Engine) : Prop := (model.custody outlook).accounts engine
    ((model.custody outlook).total state.sessions + 0)
  have survives : ∀ engine event, holds engine → holds (engine.recorded event) :=
    fun engine event vouched => ⟨lasting engine event vouched.1,
      fun handle member => (vouched.2 handle member).recorded event⟩
  have vouched := BatchSession.run_survives survives bundle state.engine guarded.vouched
  have ran : Stored model tokenizer outlook batch bundle
      { state with engine := (bundle.run state.engine).2 } :=
    ⟨⟨⟨guarded.consistent, guarded.suited, vouched⟩, stored.ready.labelled⟩, stored.found⟩
  apply runStored_ends
  intro changed refilled
  have kept := ran.store (stored.fits.refilled refilled) (congrArg Session.handle refilled.session)
  exact ⟨fun _ => ⟨kept, refilled⟩, fun _ _ => kept.ready⟩

/-- While the library obliges, a run is handed the token buffers and never fails. -/
theorem runStored_obliging (bundle : BatchSession) (runContext : String)
    (start : History) (handed : List NamedBuffers) {failed : EmbeddingError → EmbedState → Prop} :
    Attains (Stored model tokenizer (.obliging start handed) batch bundle)
      (runStored bundle runContext)
      (fun changed state =>
        Stored model tokenizer (.obliging start (model.named bundle.buffers :: handed)) batch
          changed state ∧
        changed = { bundle with
          output := { bundle.output with
            cells := (List.range bundle.output.cells.length).map
              (model.compute (model.named bundle.buffers)) } })
      failed := by
  intro state stored
  obtain ⟨ready, found⟩ := stored
  obtain ⟨⟨obliging, newer, grown, former⟩, made⟩ := ready.guarded.vouched
  have fits := ready.guarded.suited_of_find? found
  obtain ⟨handle, live⟩ := Option.isSome_iff_exists.mp fits.live
  have own : handle ∈ (model.custody (.obliging start handed)).total state.sessions + 0 := by
    rw [Custody.total_of_find? ready.guarded.consistent.keysNodup found]
    simp [BoundModel.custody, live]
  obtain ⟨event, handedOut, nothing, ran⟩ :=
    BoundModel.run_obliging obliging fits live (made handle own)
  have obligingStill : (state.engine.recorded event).Obliging model.binding.modelPath
      model.compute :=
    obliging.recorded fun other same => by rw [nothing] at same; cases same
  have handedStill : History.handed (event :: newer) = model.named bundle.buffers :: handed := by
    rw [History.handed, List.filterMap_cons, handedOut]
    exact congrArg (model.named bundle.buffers :: ·) former
  have vouched : (model.custody (.obliging start (model.named bundle.buffers :: handed))).accounts
      (state.engine.recorded event)
      ((model.custody (.obliging start handed)).total state.sessions + 0) :=
    ⟨⟨obligingStill, event :: newer, congrArg (event :: ·) grown, handedStill⟩,
      fun handle member => (made handle member).recorded event⟩
  have afterRun : Stored model tokenizer
      (.obliging start (model.named bundle.buffers :: handed)) batch bundle
      { state with engine := state.engine.recorded event } :=
    ⟨⟨⟨ready.guarded.consistent, ready.guarded.suited, vouched⟩, ready.labelled⟩, found⟩
  have refilled := bundle.run_refilled state.engine
  rw [ran] at refilled
  rw [runStored_apply, ran]
  exact ⟨afterRun.store (fits.refilled refilled) rfl, rfl⟩

/-- What can be seen of a batch after its run: the output and the mask. -/
def outputAndMask (bundle : BatchSession) : List Float32 × List Int :=
  (bundle.output.cells, bundle.mask.cells)

theorem runBatch_regular (writes : Writes batch model.binding.sequenceLength fill write)
    (runtime : Runtime) (fillFailure : EmbeddingError → EmbeddingError) (runContext : String) :
    Regular model tokenizer (host.files.present model.binding.modelPath = true)
      (runBatch (model.source host runtime) batch fill fillFailure runContext) outputAndMask
      (model.ran batch write fillFailure) := by
  rw [runBatch_eq]
  constructor
  · refine Attains.bind (Attains.weaken (prepare_reaches writes runtime fillFailure
      fun known => absurd rfl known) (fun _ _ reached => reached) fun _ _ reached => reached.1)
      fun bundle => ?_
    intro state reached
    refine (runStored_kept bundle runContext model.lasts_unknown).weaken ?_ ?_ state reached.1
    · exact fun _ _ reached => reached.1.ready
    · exact fun _ _ ready => ready
  · intro present start handed
    -- Both ends are those of the transcript, which follows the preparation.
    have reaches : Attains (Ready model tokenizer (.obliging start handed))
        (prepare (model.source host runtime) batch fill fillFailure >>= fun bundle =>
          runStored bundle runContext)
        (fun bundle state => ∃ handedAfter,
          model.ran batch write fillFailure handed = .ok (outputAndMask bundle) handedAfter ∧
          Ready model tokenizer (.obliging start handedAfter) state)
        (fun error state => model.ran batch write fillFailure handed = .error error handed ∧
          Ready model tokenizer (.obliging start handed) state) := by
      refine Attains.bind (Attains.weaken (prepare_reaches writes runtime fillFailure
        fun _ => present) (fun _ _ reached => reached) ?_) fun bundle => ?_
      · intro error state reached
        obtain ⟨ready, unknown | failed⟩ := reached
        · cases unknown
        · refine ⟨?_, ready⟩
          rw [BoundModel.ran, failed]
          rfl
      intro state reached
      obtain ⟨stored, planned⟩ := reached
      have runs : Attains (Stored model tokenizer (.obliging start handed) batch bundle)
          (runStored bundle runContext) _ fun _ _ => False :=
        runStored_obliging bundle runContext start handed
      refine runs.weaken ?_ (fun _ _ never => never.elim) state stored
      intro changed last reached
      obtain ⟨storedLast, rfl⟩ := reached
      refine ⟨model.named bundle.buffers :: handed, ?_, storedLast.ready⟩
      rw [BoundModel.ran, planned]
      rfl
    intro state ready
    have reached := reaches state ready
    generalize (prepare _ _ _ _ >>= _) state = ending at reached ⊢
    cases ending with
    | ok bundle after =>
        obtain ⟨handedAfter, showed, readyAfter⟩ := reached
        rw [showed]
        exact ⟨rfl, readyAfter⟩
    | error error after =>
        obtain ⟨showed, readyAfter⟩ := reached
        rw [showed]
        exact ⟨rfl, readyAfter⟩

end EmbedAction

end TextVectors

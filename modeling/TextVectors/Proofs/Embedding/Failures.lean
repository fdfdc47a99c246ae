import TextVectors.Proofs.Embedding.Reached
import TextVectors.Proofs.Embedding.Stopping

namespace TextVectors

/-! Failures of the library surface unchanged.

A call that fails is the last one that embedding makes: the error goes back to it, and what is left
can be used again.
-/

open Inference History EmbedAction

variable {α : Type} {environment : Environment} {host : Host} {documents : List String}

theorem askDecode_apart {ε : Type} (tokenizer : Tokenizer) (ids : List Nat) (skipSpecial : Bool) :
    Apart (liftM (tokenizer.askDecode ids skipSpecial) :
      Action ε (Except TokenizerError String)) (.ok (tokenizer.decode ids skipSpecial)) :=
  fun engine => ⟨(Engine.consult (.decode ids skipSpecial) engine).2, rfl, rfl, rfl⟩

theorem embedRows_serves {ρ : Type} (source : EmbedAction.Source) (tokenizer : Tokenizer)
    (reduce : Reduction ρ) (runContext : String) (documents : List String) :
    Serves [documents.length] (embedRows source tokenizer reduce runContext documents)
      fun _ => True := by
  refine (Serves.ofApart (encodeAll_apart tokenizer 0 documents)).bindFirst fun encodings _ => ?_
  have ran := runBatch_serves (BatchSession.fillEncodings_keeps encodings) source documents.length
    id runContext
  exact ran.bindLast fun bundle _ => (Serves.ofExcept _).weaken fun _ _ => trivial

namespace EmbedderKind

variable {C E ρ : Type} {kind : EmbedderKind C E ρ} {embedder : E} {tokenizer : Tokenizer}
variable {sizes : E → Tokenizer → List String → List Nat}

/-- The sizes of the batches in which documents are run, one after the other. -/
def RunsBatches (kind : EmbedderKind C E ρ) (sizes : E → Tokenizer → List String → List Nat) :
    Prop :=
  ∀ embedder source tokenizer documents,
    Serves (sizes embedder tokenizer documents) (kind.work embedder source tokenizer documents)
      fun _ => True

theorem RunsBatches.embedBatch (runs : kind.RunsBatches sizes)
    (given : (kind.memory embedder).tokenizer = some tokenizer) (host : Host)
    (environment : Environment) (documents : List String) :
    Serves (sizes embedder tokenizer documents)
      (kind.embedBatch embedder host environment documents) fun _ => True := by
  rw [embedBatch_open given]
  exact (Serves.ofExcept (runtimeOf environment)).bindFirst fun runtime _ =>
    runs embedder _ tokenizer documents

end EmbedderKind

theorem DenseEmbedder.work_runs : kind.RunsBatches fun _ _ documents => [documents.length] := by
  intro embedder source tokenizer documents
  exact embedRows_serves source tokenizer embedder.poolRows _ documents

namespace SparseEmbedder

/-- The windows that a document is cut into are as many, if it can be cut. -/
def windowCount (embedder : SparseEmbedder) (tokenizer : Tokenizer) (document : String) : Nat :=
  (embedder.windowsFor tokenizer document).toOption.elim 0 List.length

/-- The sizes of the batches in which documents are run, one after the other. -/
def batchSizes (embedder : SparseEmbedder) (documents : List String) : List Nat :=
  match embedder.tokenizer, preprocessed embedder.preProcessor 0 documents with
  | some tokenizer, .ok changed =>
      if embedder.stride > 0 then changed.map (embedder.windowCount tokenizer)
      else [changed.length]
  | _, _ => []

variable (embedder : SparseEmbedder) (source : EmbedAction.Source) (tokenizer : Tokenizer)

theorem embedFixed_serves (documents : List String) :
    Serves [documents.length] (embedder.embedFixed source tokenizer documents) fun _ => True :=
  embedRows_serves source tokenizer embedder.sparsifyRows _ documents

theorem embedWindows_serves (position : Nat) (document : String) :
    Serves [embedder.windowCount tokenizer document]
      (embedder.embedWindows source tokenizer position document) fun _ => True := by
  refine .bindStep (windowsOf_apart embedder tokenizer document) ?_
  refine (Serves.ofExcept _).bindFirst fun windows cut => ?_
  have counted : embedder.windowCount tokenizer document = windows.length := by
    rw [windowCount, ok_of_mapError cut]
    rfl
  rw [counted]
  refine .bindStep (.ofNote _ _) ?_
  refine (runBatch_serves (BatchSession.fillWindows_keeps windows) _ _ _ _).bindLast
    fun bundle _ => ?_
  exact (Serves.ofExcept _).bindFirst fun _ _ => (Serves.ofExcept _).weaken fun _ _ => trivial

theorem embedSliding_serves (position : Nat) (documents : List String) :
    Serves (documents.map (embedder.windowCount tokenizer))
      (embedder.embedSliding source tokenizer position documents) fun _ => True := by
  induction documents generalizing position with
  | nil => exact .ofPure trivial
  | cons document rest ih =>
      exact (embedder.embedWindows_serves source tokenizer position document).bind fun _ _ =>
        (ih (position + 1)).bindLast fun _ _ => .ofPure trivial

theorem labelOf_serves (index : Nat) : Serves [] (labelOf tokenizer index) fun _ => True := by
  refine Serves.ofGet.bindFirst fun state _ => ?_
  cases state.labels.lookup index with
  | some label => exact .ofPure trivial
  | none =>
      dsimp only
      split
      · exact .ofThrow _
      · refine .bindStep (askDecode_apart tokenizer [index] false) ?_
        cases tokenizer.decode [index] false with
        | error error => exact .ofThrow _
        | ok label =>
            exact (Serves.ofRemember ((index, label) :: ·)).bindFirst fun _ _ => .ofPure trivial

theorem attachLabels_serves (vector : SparseVector) :
    Serves [] (attachLabels tokenizer vector) fun _ => True := by
  unfold attachLabels
  split
  · exact .ofPure trivial
  · exact (Serves.mapM (labelOf_serves tokenizer) vector.indices).bindFirst fun _ _ =>
      .ofPure trivial

theorem work_runs : kind.RunsBatches fun embedder tokenizer documents =>
    ({ embedder with tokenizer := some tokenizer } : SparseEmbedder).batchSizes documents := by
  intro embedder source tokenizer documents
  change Serves _ (embedder.work source tokenizer documents) _
  refine (Serves.ofApart (preprocess_apart _ 0 documents)).bindFirst fun changed processed => ?_
  have labelling (vectors : List SparseVector) : Serves []
      (if embedder.returnLabels then vectors.mapM (attachLabels tokenizer)
        else return vectors) fun _ => True := by
    split
    · exact .mapM (attachLabels_serves tokenizer) vectors
    · exact .ofPure trivial
  simp only [batchSizes, processed]
  by_cases sliding : embedder.stride > 0
  · rw [if_pos sliding, if_pos sliding]
    exact (embedder.embedSliding_serves _ tokenizer 0 changed).bindLast fun vectors _ =>
      labelling vectors
  · rw [if_neg sliding, if_neg sliding]
    exact (embedder.embedFixed_serves _ tokenizer changed).bindLast fun vectors _ =>
      labelling vectors

end SparseEmbedder

/-- What a failed call comes to, with the events before it and after it in their order: its code and
its text are at the root of the error, nothing is asked any more but to release, and the session of
the batch that was next is cached if its run failed, and only then. -/
structure Reported (engine : Engine) (sizes : List Nat) (result : Except EmbeddingError α)
    (sessions : SessionCache BatchSession) (earlier : List Event) (call : Call) (status : Handle)
    (later : List Event) : Prop where
  surfaces : ∃ code text error,
    engine.behaviour.answer call.function
        (History.callCount (earlier.reverse ++ engine.history) call.function + 1) =
      .failure code text ∧
    result = .error error ∧
    error.root = some (.native call.function.name (.ofInt code) (Text.ofTerminated text))
  stops : ∃ handles : List Handle,
    later = [.readCode status, .readMessage status, .released status] ++ handles.map .released
  left : ∃ batch, sizes[History.callCount earlier .run]? = some batch ∧ Left call batch sessions

namespace EmbedAction

variable {κ : Type} {keep : EmbedState → κ} {action : EmbedAction α} {good : α → Prop}
variable {sizes : List Nat} {before after : EmbedState} {newer earlier later : History}
variable {call : Call} {status : Handle} {error : EmbeddingError}

theorem not_smooth (split : newer.reverse = earlier ++ .called call (.failed status) :: later) :
    ¬ newer.Smooth := by
  intro smooth
  have member : Event.called call (.failed status) ∈ newer.reverse := by rw [split]; simp
  exact smooth call status (List.mem_reverse.mp member)

theorem Interrupted.reported (interrupted : Interrupted sizes before after newer error)
    (split : newer.reverse = earlier ++ .called call (.failed status) :: later) :
    Reported before.engine sizes (.error error : Except EmbeddingError α) after.sessions earlier
      call status later := by
  obtain ⟨first, failed, cause, batch, ⟨smooth, ⟨other, handles, rfl⟩, code, text, answered, rfl⟩,
    rooted, reached, left⟩ := interrupted
  -- The call that failed is the only one that did.
  have reversed : (releases handles ++ failing failed other ++ first).reverse =
      first.reverse ++ .called failed (.failed other) ::
        ([.readCode other, .readMessage other, .released other] ++
          handles.reverse.map .released) := by
    simp [releases, failing]
  rw [reversed] at split
  obtain ⟨rfl, same, rfl⟩ := (List.append_cons_inj_of_notMem (by
    rw [List.mem_reverse]
    exact smooth call status) (by simp)).mp split
  cases same
  refine ⟨⟨code, text, error, ?_, rfl, rooted⟩, ⟨_, rfl⟩, batch, ?_, left⟩
  · rw [List.reverse_reverse]
    exact answered
  · rw [History.callCount, List.countP_reverse]
    exact reached

/-- An action is reported to whoever concludes it. -/
theorem Serves.reported (serves : Serves sizes action good) (matched : before.sessions.Matched)
    (split : (concluded keep (action before)).2.eventsSince before.engine =
      earlier ++ .called call (.failed status) :: later) :
    ∃ after, (concluded keep (action before)).1.2 = keep after ∧
      Reported before.engine sizes (concluded keep (action before)).1.1 after.sessions earlier call
        status later := by
  have ended := serves before matched before rfl
  have events {last : EmbedState} {newer : History} (passage : Passage before last newer) :
      last.engine.eventsSince before.engine = newer.reverse :=
    Engine.eventsSince_append passage.stretch.history
  cases result : action before with
  | ok value last =>
      rw [result] at ended split
      obtain ⟨newer, passage, smooth, -⟩ := ended
      exact (not_smooth ((events passage).symm.trans split) smooth).elim
  | error error last =>
      rw [result] at ended split
      obtain ⟨newer, passage, smooth | interrupted⟩ := ended
      · exact (not_smooth ((events passage).symm.trans split) smooth).elim
      · exact ⟨last, rfl, interrupted.reported ((events passage).symm.trans split)⟩

/-- Where all cached sessions suit their batches, they are cached under the right sizes. -/
theorem Ready.matched {model : BoundModel} {tokenizer : Tokenizer} {outlook : Outlook}
    (ready : Ready model tokenizer outlook before) : before.sessions.Matched :=
  ⟨ready.guarded.consistent, fun entry member =>
    (ready.guarded.suited entry member).formed.batch⟩

end EmbedAction

section Embedders

variable {modelPath : String} {engine last : Engine} {call : Call} {status : Handle}
variable {earlier later : List Event}

theorem not_failed_of_idle (idle : engine.eventsSince engine =
    earlier ++ .called call (.failed status) :: later) : False := by
  simp [Engine.eventsSince_same] at idle

variable {C E ρ : Type} {kind : EmbedderKind C E ρ} {embedder after : E} {config : C}
variable {shown : E → Tokenizer → (NamedBuffers → Nat → Float32) → List String →
  Transcript (List ρ)}
variable {sizes : E → Tokenizer → List String → List Nat}

theorem EmbedderKind.Reached.reported {result : Except EmbeddingError (List ρ)}
    (reached : kind.Reached modelPath config embedder engine) (shows : kind.Shows shown)
    (runs : kind.RunsBatches sizes)
    (embedded : kind.embedDocuments embedder host environment documents engine =
      ((result, after), last))
    (failed : last.eventsSince engine = earlier ++ .called call (.failed status) :: later) :
    ∃ tokenizer, (kind.memory embedder).tokenizer = some tokenizer ∧
      Reported engine (sizes embedder tokenizer documents) result (kind.sessions after) earlier call
        status later ∧
      kind.isClosed after = false ∧ kind.InUse modelPath tokenizer config after last := by
  obtain ⟨tokenizer, inUse | ⟨live, former, inUse, closed⟩⟩ := reached.settled
  · by_cases none : documents.isEmpty = true
    · rw [embedDocuments_none kind embedder host environment none] at embedded
      cases embedded
      exact (not_failed_of_idle failed).elim
    · have used := inUse.embedded host environment documents
      obtain ⟨-, settled, sessions, -, serving⟩ := inUse.served shows fun _ _ => Binary32.zero
      rw [embedded] at used
      obtain ⟨-, settledToo, sessionsToo, -, servingToo⟩ :=
        used.served shows fun _ _ => Binary32.zero
      rw [embedDocuments_some kind embedder host environment none] at embedded
      have serves := runs.embedBatch serving.given host environment documents
      obtain ⟨kept, same, reported⟩ :=
        serves.reported serving.ready.matched (by rw [embedded]; exact failed)
      rw [embedded] at same reported
      have left : kind.sessions after = kept.sessions := by
        rw [show after = kind.keep embedder kept from same]
        exact kind.sessions_remember _ _
      rw [← left] at reported
      refine ⟨tokenizer, serving.given, reported, ?_, used⟩
      rw [isClosed, servingToo.given]
      rfl
  · rw [embedDocuments_closed closed.gone] at embedded
    cases embedded
    exact (not_failed_of_idle failed).elim

end Embedders

/-- Whatever an embedder went through and whatever the library does: a call that fails while
documents are embedded is reported with its code and its text, it is the last one that is made, and
the embedder stays in use.  The session of the batch that was being run is cached, as the last one
used, if the run failed, and is not cached if it did not come into being. -/
theorem failed_calls_surface (modelPath : String) (host : Host) (environment : Environment)
    (documents : List String) (engine last : Engine) (earlier : List Event) (call : Call)
    (status : Handle) (later : List Event)
    (failed : last.eventsSince engine = earlier ++ .called call (.failed status) :: later) :
    (∀ (config : DenseConfig) (embedder after : DenseEmbedder) result,
      DenseEmbedder.Reached modelPath config embedder engine →
      embedder.embedDocuments host environment documents engine = ((result, after), last) →
        Reported engine [documents.length] result after.sessions earlier call status later ∧
          after.isClosed = false ∧
          ∃ tokenizer, DenseEmbedder.InUse modelPath tokenizer config after last) ∧
    (∀ (config : SparseConfig) (embedder after : SparseEmbedder) result,
      SparseEmbedder.Reached modelPath config embedder engine →
      embedder.embedDocuments host environment documents engine = ((result, after), last) →
        Reported engine (embedder.batchSizes documents) result after.sessions earlier call status
            later ∧
          after.isClosed = false ∧
          ∃ tokenizer, SparseEmbedder.InUse modelPath tokenizer config after last) := by
  constructor
  · intro config embedder after result reached embedded
    obtain ⟨tokenizer, -, reported, stillOpen, inUse⟩ :=
      reached.reported DenseEmbedder.work_shows DenseEmbedder.work_runs embedded failed
    exact ⟨reported, stillOpen, tokenizer, inUse⟩
  · intro config embedder after result reached embedded
    obtain ⟨tokenizer, given, reported, stillOpen, inUse⟩ :=
      reached.reported SparseEmbedder.work_shows SparseEmbedder.work_runs embedded failed
    have same : ({ embedder with tokenizer := some tokenizer } : SparseEmbedder) = embedder := by
      rw [← show embedder.tokenizer = some tokenizer from given]
    rw [same] at reported
    exact ⟨reported, stillOpen, tokenizer, inUse⟩

/-- The first run of the trial, which fails after everything was created for it. -/
def trialRun : Call :=
  .run ⟨.session, 1⟩
    [(⟨"ids", ⟨.value, 1⟩⟩, ⟨.int64, [3, 3, 5, 0]⟩),
      (⟨"mask", ⟨.value, 2⟩⟩, ⟨.int64, [1, 1, 1, 0]⟩)]
    [⟨"states", ⟨.value, 3⟩⟩]

def trialAfterRun : List Event :=
  [.readCode ⟨.status, 1⟩, .readMessage ⟨.status, 1⟩, .released ⟨.status, 1⟩]

/-- A failed run, for either kind of embedder. -/
theorem failed_run_surfaces :
    (∃ earlier, triedDense.2.eventsSince trialEngine =
        earlier ++ .called trialRun (.failed ⟨.status, 1⟩) :: trialAfterRun ∧
      Reported trialEngine [1] triedDense.1.1 triedDense.1.2.sessions earlier trialRun ⟨.status, 1⟩
        trialAfterRun ∧
      triedDense.1.2.isClosed = false) ∧
    (∃ earlier, triedSparse.2.eventsSince trialEngine =
        earlier ++ .called trialRun (.failed ⟨.status, 1⟩) :: trialAfterRun ∧
      Reported trialEngine [1] triedSparse.1.1 triedSparse.1.2.sessions earlier trialRun
        ⟨.status, 1⟩ trialAfterRun ∧
      triedSparse.1.2.isClosed = false) := by
  have dense : triedDense.2.eventsSince trialEngine =
      (triedDense.2.eventsSince trialEngine).take 13 ++
        .called trialRun (.failed ⟨.status, 1⟩) :: trialAfterRun := rfl
  have sparse : triedSparse.2.eventsSince trialEngine =
      (triedSparse.2.eventsSince trialEngine).take 13 ++
        .called trialRun (.failed ⟨.status, 1⟩) :: trialAfterRun := rfl
  obtain ⟨reported, stillOpen, -⟩ := (failed_calls_surface "@/model.onnx" trialHost
    trialEnvironment ["one two three"] trialEngine triedDense.2 _ _ _ _ dense).1
      trialDense freshDense triedDense.1.2 triedDense.1.1 fresh_reached.1 rfl
  obtain ⟨reportedToo, stillOpenToo, -⟩ := (failed_calls_surface "@/model.onnx" trialHost
    trialEnvironment ["one two three"] trialEngine triedSparse.2 _ _ _ _ sparse).2
      trialSparse freshSparse triedSparse.1.2 triedSparse.1.1 fresh_reached.2 rfl
  exact ⟨⟨_, dense, reported, stillOpen⟩, ⟨_, sparse, reportedToo, stillOpenToo⟩⟩

end TextVectors

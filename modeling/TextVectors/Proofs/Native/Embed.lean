import TextVectors.Client.Basic
import TextVectors.Proofs.Embedding.Kind
import TextVectors.Proofs.Native.Embedder

namespace TextVectors

/-! Embedding documents trades the cached batch sessions for others. -/

open Inference Owned EmbedAction

variable {α : Type} {base given : Owned}

/-- What is cached under a batch size was made for it. -/
structure SessionsKept (sessions : SessionCache BatchSession) : Prop where
  consistent : sessions.Consistent
  suited : ∀ entry ∈ sessions.entries, entry.2.batch = entry.1 ∧ entry.2.Whole

/-- What cached batch sessions own. -/
def cachedAssets (sessions : SessionCache BatchSession) : Owned :=
  (sessions.entries.map fun entry => entry.2.assets).sum

section

variable [Lineage]

/-- What is made now is made through the environment's runtime. -/
def Current (environment : Environment) : Prop :=
  ∀ runtime, environment.runtime = some runtime → Lineage.current runtime.environment

theorem keeps_of_runtime {environment : Environment} {next : Runtime → EmbedAction α}
    (current : Current environment)
    (rest : ∀ runtime, Lineage.current runtime.environment →
      Keeps (reference runtime) given (next runtime)) :
    Keeps environment.assets given (EmbedAction.ofExcept (runtimeOf environment) >>= next) := by
  cases loaded : environment.runtime with
  | none =>
      have missing : runtimeOf environment = .error .runtimeNotInitialized := by
        simp only [runtimeOf, loaded]
      rw [missing]
      exact fun _ kept => kept
  | some runtime =>
      have ready : runtimeOf environment = .ok runtime := by simp only [runtimeOf, loaded]
      have same : environment.assets = reference runtime := by
        simp only [Environment.assets, loaded]
      rw [ready, same]
      exact rest runtime (current runtime loaded)

theorem embedRows_keeps {ρ : Type} {source : EmbedAction.Source}
    (current : Lineage.current source.runtime.environment) (tokenizer : Tokenizer)
    (reduce : Reduction ρ) (runContext : String) (documents : List String) :
    Keeps (reference source.runtime) given
      (embedRows source tokenizer reduce runContext documents) := by
  refine .bind (.ofAction (encodeAll_trades tokenizer 0 documents)) fun encodings => ?_
  refine .bind ?_ fun bundle => .ofExcept _
  exact runBatch_keeps rfl current _ (fun bundle => bundle.fillEncodings_setBuffers encodings) _ _

/-- An operation on the sessions of an embedder, as a trade. -/
theorem trades_of_keeps {sessions : SessionCache BatchSession} (labels : List (Nat × String))
    {action : EmbedAction α} (keeps : ∀ given, Keeps base given action)
    (kept : SessionsKept sessions) {given : Owned} {engine : Engine}
    (balanced : engine.Balanced (cachedAssets sessions + base + given)) :
    let state : EmbedState := { sessions, labels, engine }
    EndsIn (fun _ after => SessionsKept after.sessions ∧
        after.engine.Balanced (cachedAssets after.sessions + base + given))
      (fun _ after => SessionsKept after.sessions ∧
        after.engine.Balanced (cachedAssets after.sessions + base + given)) (action state) := by
  intro state
  have start : Kept base given state := by
    refine ⟨kept.consistent, kept.suited, ?_⟩
    rw [add_right_comm] at balanced
    exact balanced
  have ends : ∀ after, Kept base given after → SessionsKept after.sessions ∧
      after.engine.Balanced (cachedAssets after.sessions + base + given) := by
    intro after keptAfter
    refine ⟨⟨keptAfter.consistent, keptAfter.suited⟩, ?_⟩
    rw [add_right_comm]
    exact keptAfter.vouched
  have reached := keeps given state start
  cases ended : action state with
  | ok value after =>
      rw [ended] at reached
      exact ends after reached
  | error error after =>
      rw [ended] at reached
      exact ends after reached

end

variable {sessions : SessionCache BatchSession}

theorem sessionsKept_of_new {capacity : Nat} (made : SessionCache.new capacity = .ok sessions) :
    SessionsKept sessions ∧ cachedAssets sessions = 0 := by
  obtain ⟨consistent, empty, -⟩ := SessionCache.consistent_of_new made
  exact ⟨⟨consistent, by simp [empty]⟩, by simp [cachedAssets, empty]⟩

section

variable [Lineage]

theorem guarded_of_kept (kept : SessionsKept sessions) {given : Owned} {engine : Engine}
    (balanced : engine.Balanced (cachedAssets sessions + given)) :
    (custody 0).Guarded sessions engine given := by
  refine ⟨kept.consistent, kept.suited, ?_⟩
  rw [← add_zero (cachedAssets sessions + given)] at balanced
  exact balanced

theorem close_trades (kept : SessionsKept sessions) :
    Trades (cachedAssets sessions) (sessions.close closingActions)
      (fun result => cachedAssets result.2) (fun result => SessionsKept result.2) := by
  intro frame engine balanced
  obtain ⟨-, guarded⟩ := (guarded_of_kept kept balanced).close (closing_lawful 0)
    (show sessions.close closingActions engine = ((_, _), _) from rfl)
  refine ⟨⟨guarded.consistent, guarded.suited⟩, ?_⟩
  have vouched := guarded.vouched
  rw [show (custody 0).accounts = fun engine owned => engine.Balanced (owned + 0) from rfl]
    at vouched
  simp only [add_zero] at vouched
  exact vouched

theorem discard_trades (kept : SessionsKept sessions) :
    Trades (cachedAssets sessions) (sessions.discard closingActions) (fun _ => 0)
      (fun _ => True) := by
  intro frame engine balanced
  have gone : (sessions.discard closingActions engine).2.Balanced (frame + 0) :=
    (guarded_of_kept kept balanced).discard (closing_lawful 0)
  refine ⟨trivial, ?_⟩
  rw [zero_add, ← add_zero frame]
  exact gone

theorem loadTokenizer_trades (host : Host) (path : String) :
    TradesOr 0 (loadTokenizer host path) (fun _ => 0) (fun _ => True) 0 :=
  .bind (.ofExcept _) fun _ _ => .bindStep (note_trades _ _) fun _ _ => .ofPure trivial rfl

namespace EmbedderKind

variable {C E ρ : Type} {kind : EmbedderKind C E ρ} {embedder : E} {environment : Environment}

theorem withTokenizer_trades (kind : EmbedderKind C E ρ) (host : Host) (modelPath : String)
    (tokenizer : Tokenizer) (config : C) :
    TradesOr 0 (kind.withTokenizer host modelPath tokenizer config)
      (fun embedder => cachedAssets (kind.sessions embedder))
      (fun embedder => SessionsKept (kind.sessions embedder)) 0 := by
  refine .bind (.ofExcept _) fun _ _ => .bind (.ofMapFailure (.ofExcept _)) fun _ _ => ?_
  refine .bind (.ofMapFailure (.ofExcept _)) fun settled _ => ?_
  refine .bind (.ofMapFailure (.ofExcept _)) fun sessions made => ?_
  obtain ⟨kept, empty⟩ := sessionsKept_of_new made
  rw [← kind.sessions_configured modelPath tokenizer settled sessions] at kept empty
  exact .bindStep (note_trades _ _) fun _ _ => .ofPure kept empty.symm

theorem fromFiles_trades (kind : EmbedderKind C E ρ) (host : Host)
    (modelPath tokenizerPath : String) (config : C) :
    TradesOr 0 (kind.fromFiles host modelPath tokenizerPath config)
      (fun embedder => cachedAssets (kind.sessions embedder))
      (fun embedder => SessionsKept (kind.sessions embedder)) 0 := by
  refine .bind (.ofExcept _) fun _ _ => .bind (.ofExcept _) fun _ _ => ?_
  refine .bind (.ofMapFailure (.ofExcept _)) fun _ _ => ?_
  refine .bind (.ofMapFailure (.bind (loadTokenizer_trades host tokenizerPath) fun _ _ => ?_))
    fun definition (_ : True) => kind.withTokenizer_trades host modelPath _ config
  cases kind.fixedLength config with
  | some length => exact .bind (.ofExcept _) fun _ _ => .ofPure trivial rfl
  | none => exact .ofPure trivial rfl

/-- The work on documents makes nothing but batch sessions, which are cached. -/
def Accounted (kind : EmbedderKind C E ρ) : Prop :=
  ∀ given embedder (source : EmbedAction.Source) tokenizer documents,
    Lineage.current source.runtime.environment →
      Keeps (reference source.runtime) given (kind.work embedder source tokenizer documents)

theorem embedDocuments_trades (accounted : kind.Accounted)
    (kept : SessionsKept (kind.sessions embedder)) (host : Host)
    (current : Current environment) (documents : List String) :
    Trades (cachedAssets (kind.sessions embedder) + environment.assets)
      (kind.embedDocuments embedder host environment documents)
      (fun result => cachedAssets (kind.sessions result.2) + environment.assets)
      (fun result => SessionsKept (kind.sessions result.2)) := by
  intro frame engine balanced
  have keeps (given : Owned) : Keeps environment.assets given
      (kind.embedBatch embedder host environment documents) := by
    unfold embedBatch
    cases (kind.memory embedder).tokenizer with
    | none => exact .ofThrow _
    | some tokenizer =>
        exact keeps_of_runtime current fun runtime current =>
          accounted given embedder (kind.source embedder host runtime) tokenizer documents current
  let holds (sessions : SessionCache BatchSession) (engine : Engine) : Prop :=
    SessionsKept sessions ∧ engine.Balanced (cachedAssets sessions + environment.assets + frame)
  have before : holds (kind.sessions embedder) engine := ⟨kept, balanced⟩
  exact embedDocuments_leaves holds before
    (trades_of_keeps (kind.memory embedder).labels keeps kept balanced)

theorem embedQuery_trades (accounted : kind.Accounted)
    (kept : SessionsKept (kind.sessions embedder)) (host : Host)
    (current : Current environment) (query : String) :
    Trades (cachedAssets (kind.sessions embedder) + environment.assets)
      (kind.embedQuery embedder host environment query)
      (fun result => cachedAssets (kind.sessions result.2) + environment.assets)
      (fun result => SessionsKept (kind.sessions result.2)) :=
  .bind (embedDocuments_trades accounted kept host current [query]) fun _ holds =>
    .ofPure holds rfl

theorem close_trades (kind : EmbedderKind C E ρ) (embedder : E)
    (kept : SessionsKept (kind.sessions embedder)) :
    Trades (cachedAssets (kind.sessions embedder)) (kind.close embedder)
      (fun result => cachedAssets (kind.sessions result.2))
      (fun result => SessionsKept (kind.sessions result.2)) := by
  refine .bind (TextVectors.close_trades kept) fun closed holds => ?_
  have sessions : kind.sessions (kind.remember embedder
      { tokenizer := none, sessions := closed.2, labels := [] }) = closed.2 :=
    kind.sessions_remember _ _
  rw [← sessions] at holds
  dsimp only
  split
  · exact .bind (note_trades _ _) fun _ _ => .ofPure holds (by rw [sessions])
  · exact .ofPure holds (by rw [sessions])

end EmbedderKind

theorem DenseEmbedder.work_accounted : kind.Accounted := by
  intro given embedder source tokenizer documents current
  exact embedRows_keeps current tokenizer embedder.poolRows _ documents

namespace SparseEmbedder

theorem preprocess_trades (preProcessor : Option PreProcessor) (position : Nat)
    (documents : List String) :
    TradesOr 0 (preprocess preProcessor position documents) (fun _ => 0) (fun _ => True) 0 := by
  induction documents generalizing position with
  | nil => exact .ofPure trivial rfl
  | cons document rest ih =>
      cases preProcessor with
      | none => exact .ofPure trivial rfl
      | some processor =>
          refine .bindStep (consult_trades _) fun _ _ => ?_
          cases processor.apply document with
          | error payload => exact .ofThrow rfl
          | ok changed => exact .bind (ih (position + 1)) fun _ _ => .ofPure trivial rfl

variable {source : EmbedAction.Source}

theorem embedFixed_keeps (current : Lineage.current source.runtime.environment)
    (embedder : SparseEmbedder) (tokenizer : Tokenizer) (documents : List String) :
    Keeps (reference source.runtime) given (embedder.embedFixed source tokenizer documents) :=
  embedRows_keeps current tokenizer embedder.sparsifyRows _ documents

theorem embedWindows_keeps (current : Lineage.current source.runtime.environment)
    (embedder : SparseEmbedder) (tokenizer : Tokenizer) (position : Nat) (document : String) :
    Keeps (reference source.runtime) given
      (embedder.embedWindows source tokenizer position document) := by
  have asked : Trades 0 (embedder.windowsOf tokenizer document) (fun _ => 0) (fun _ => True) := by
    refine .bind (askEncode_trades tokenizer document) fun result _ => ?_
    cases result <;> exact .ofPure trivial rfl
  unfold embedWindows
  refine .bind (.ofStep asked) fun result => ?_
  refine .bind (.ofExcept _) fun windows => .bind (.ofStep (note_trades _ _)) fun _ => ?_
  refine .bind ?_ fun bundle => .bind (.ofExcept _) fun perWindow => .ofExcept _
  exact runBatch_keeps rfl current _ (fun bundle => bundle.fillWindows_setBuffers windows) _ _

theorem embedSliding_keeps (current : Lineage.current source.runtime.environment)
    (embedder : SparseEmbedder) (tokenizer : Tokenizer) (position : Nat) (documents : List String) :
    Keeps (reference source.runtime) given
      (embedder.embedSliding source tokenizer position documents) := by
  induction documents generalizing position with
  | nil => exact .ofPure []
  | cons document rest ih =>
      exact .bind (embedWindows_keeps current embedder tokenizer position document) fun _ =>
        .bind (ih (position + 1)) fun _ => .ofPure _

theorem labelOf_keeps (tokenizer : Tokenizer) (index : Nat) :
    Keeps base given (labelOf tokenizer index) := by
  have asked : Trades 0 (tokenizer.askDecode [index] false) (fun _ => 0) (fun _ => True) :=
    .bind (consult_trades _) fun _ _ => .ofPure trivial rfl
  have remembered (label : String) : Keeps base given (do
      modify fun state => { state with labels := (index, label) :: state.labels }
      return label) :=
    .bind (Attains.ofModify fun _ kept => kept) fun _ => .ofPure label
  unfold labelOf
  refine .bind (Attains.ofGet.weaken (fun _ _ reached => reached.2) fun _ _ kept => kept)
    fun state => ?_
  cases state.labels.lookup index with
  | some label => exact .ofPure label
  | none =>
      dsimp only
      split
      · refine .bind (.ofThrow _) fun _ => .bind (.ofStep asked) fun result => ?_
        cases result with
        | error error => exact .ofThrow _
        | ok label => exact remembered label
      · refine .bind (.ofStep asked) fun result => ?_
        cases result with
        | error error => exact .ofThrow _
        | ok label => exact remembered label

theorem attachLabels_keeps (tokenizer : Tokenizer) (vector : SparseVector) :
    Keeps base given (attachLabels tokenizer vector) := by
  unfold attachLabels
  split
  · exact .ofPure vector
  · exact .bind (.mapM (labelOf_keeps tokenizer) _) fun _ => .ofPure _

theorem work_accounted : kind.Accounted := by
  intro given embedder source tokenizer documents current
  change Keeps _ given (embedder.work source tokenizer documents)
  refine .bind (.ofAction (preprocess_trades _ 0 documents)) fun documents => ?_
  dsimp only
  have labelled (vectors : List SparseVector) : Keeps (reference source.runtime) given
      (if embedder.returnLabels then vectors.mapM (attachLabels tokenizer)
        else return vectors) := by
    split
    · exact .mapM (attachLabels_keeps tokenizer) vectors
    · exact .ofPure vectors
  split
  · exact .bind (embedSliding_keeps current embedder tokenizer 0 documents) labelled
  · exact .bind (embedFixed_keeps current embedder tokenizer documents) labelled

end SparseEmbedder

end

end TextVectors

import TextVectors.Embedding.Embedder
import TextVectors.Proofs.Embedding.Alike

namespace TextVectors

/-! An embedder in use answers like a fresh one, whatever its kind.

An embedder stays what it was opened as, apart from what it remembers.  What comes out of embedding
depends on the rest alone if the work of its kind does.
-/

open Inference EmbedAction

namespace EmbedderKind

variable {C E ρ : Type}

/-- An embedder that was opened once and has been used since, for whatever documents and with
whatever success, but not closed. -/
inductive InUse (kind : EmbedderKind C E ρ) (modelPath : String) (tokenizer : Tokenizer)
    (config : C) : E → Engine → Prop
  | opened {host engine embedder after} :
      kind.withTokenizer host modelPath tokenizer config engine = .ok embedder after →
        InUse kind modelPath tokenizer config embedder after
  | embedded {embedder engine} (host environment documents) :
      InUse kind modelPath tokenizer config embedder engine →
        InUse kind modelPath tokenizer config
          (kind.embedDocuments embedder host environment documents engine).1.2
          (kind.embedDocuments embedder host environment documents engine).2
  | queried {embedder engine} (host environment query) :
      InUse kind modelPath tokenizer config embedder engine →
        InUse kind modelPath tokenizer config
          (kind.embedQuery embedder host environment query engine).1.2
          (kind.embedQuery embedder host environment query engine).2
  /-- The library may be used by others, and may behave differently afterwards. -/
  | elsewhere {embedder engine later newer} :
      InUse kind modelPath tokenizer config embedder engine →
        later.history = newer ++ engine.history →
        InUse kind modelPath tokenizer config embedder later

variable {kind : EmbedderKind C E ρ} {embedder fresh : E} {config : C}
variable {modelPath : String} {tokenizer : Tokenizer} {host : Host} {environment : Environment}
variable {compute : NamedBuffers → Nat → Float32} {documents : List String}
variable {engine after later : Engine}

theorem remember_configured (kind : EmbedderKind C E ρ) (modelPath : String)
    (tokenizer : Tokenizer) (config : C) (sessions : SessionCache BatchSession) :
    kind.remember (kind.configured modelPath tokenizer config sessions)
        { tokenizer := some tokenizer, sessions, labels := [] } =
      kind.configured modelPath tokenizer config sessions :=
  kind.remember_build _ _ _ _

theorem tokenizer_configured (kind : EmbedderKind C E ρ) (modelPath : String)
    (tokenizer : Tokenizer) (config : C) (sessions : SessionCache BatchSession) :
    (kind.memory (kind.configured modelPath tokenizer config sessions)).tokenizer =
      some tokenizer := by
  rw [← kind.remember_configured]
  exact kind.tokenizer_remember _ _

theorem sessions_configured (kind : EmbedderKind C E ρ) (modelPath : String)
    (tokenizer : Tokenizer) (config : C) (sessions : SessionCache BatchSession) :
    kind.sessions (kind.configured modelPath tokenizer config sessions) = sessions := by
  rw [← kind.remember_configured]
  exact kind.sessions_remember _ _

theorem labels_configured (kind : EmbedderKind C E ρ) (modelPath : String)
    (tokenizer : Tokenizer) (config : C) (sessions : SessionCache BatchSession) :
    (kind.memory (kind.configured modelPath tokenizer config sessions)).labels = [] := by
  rw [← kind.remember_configured]
  exact List.subset_nil.mp (kind.labels_remember _ _)

theorem source_remember (embedder : E) (other : EmbedderMemory) :
    kind.source (kind.remember embedder other) = kind.source embedder := by
  funext host runtime
  simp only [source, kind.binding_remember, kind.outputShape_remember]

theorem withTokenizer_ok
    (opened : kind.withTokenizer host modelPath tokenizer config engine = .ok fresh after) :
    Opening host modelPath engine after ∧ kind.validate config = .ok () ∧ ∃ settled sessions,
      kind.settle tokenizer config = .ok settled ∧
      SessionCache.new (kind.model config).maxCachedSessions = .ok sessions ∧
      fresh = kind.configured modelPath tokenizer settled sessions := by
  have reached : Attains (· = engine) (kind.withTokenizer host modelPath tokenizer config)
      (fun fresh after => Opening host modelPath engine after ∧ kind.validate config = .ok () ∧
        ∃ settled sessions, kind.settle tokenizer config = .ok settled ∧
          SessionCache.new (kind.model config).maxCachedSessions = .ok sessions ∧
          fresh = kind.configured modelPath tokenizer settled sessions)
      (fun _ _ => True) := by
    refine Attains.bind (checkFile_opening host modelPath "model" engine) fun _ => ?_
    refine Attains.bind (Attains.ofMapFailure (ofExcept_leaves _ (kind.validate config)))
      fun _ => ?_
    intro engine reached
    obtain ⟨opening, valid⟩ := reached
    refine Attains.bind (Attains.ofMapFailure (ofExcept_leaves _
      (kind.settle tokenizer config))) (fun settled => ?_) engine opening
    intro engine reached
    obtain ⟨opening, derived⟩ := reached
    refine Attains.bind (Attains.ofMapFailure (ofExcept_leaves _
      (SessionCache.new (kind.model config).maxCachedSessions))) (fun sessions => ?_) engine opening
    intro engine reached
    obtain ⟨⟨present, history, behaviour⟩, made⟩ := reached
    exact ⟨⟨present, history, behaviour⟩, valid, settled, sessions, derived, made, rfl⟩
  have ended := reached engine rfl
  rw [opened] at ended
  exact ended

theorem embedBatch_open (given : (kind.memory embedder).tokenizer = some tokenizer) (host : Host)
    (environment : Environment) (documents : List String) :
    kind.embedBatch embedder host environment documents =
      EmbedAction.ofExcept (runtimeOf environment) >>= fun runtime =>
        kind.work embedder (kind.source embedder host runtime) tokenizer documents := by
  unfold embedBatch
  rw [given]

theorem embedDocuments_none (kind : EmbedderKind C E ρ) (embedder : E) (host : Host)
    (environment : Environment) (none : documents.isEmpty = true) (engine : Engine) :
    kind.embedDocuments embedder host environment documents engine =
      ((.ok [], embedder), engine) := by
  rw [embedDocuments, if_pos none]

theorem embedDocuments_some (kind : EmbedderKind C E ρ) (embedder : E) (host : Host)
    (environment : Environment) (some : ¬ documents.isEmpty = true) (engine : Engine) :
    kind.embedDocuments embedder host environment documents engine =
      concluded (kind.keep embedder)
        (kind.embedBatch embedder host environment documents (kind.start embedder engine)) := by
  rw [embedDocuments, if_neg some]
  cases kind.embedBatch embedder host environment documents (kind.start embedder engine) <;> rfl

/-- What holds of the cached sessions and the engine before documents are embedded, and however
their batch ends, holds afterwards. -/
theorem embedDocuments_leaves (holds : SessionCache BatchSession → Engine → Prop)
    (before : holds (kind.sessions embedder) engine)
    (ends : EndsIn (fun _ after => holds after.sessions after.engine)
      (fun _ after => holds after.sessions after.engine)
      (kind.embedBatch embedder host environment documents (kind.start embedder engine))) :
    let after := kind.embedDocuments embedder host environment documents engine
    holds (kind.sessions after.1.2) after.2 := by
  by_cases none : documents.isEmpty = true
  · rw [embedDocuments_none kind embedder host environment none]
    exact before
  · rw [embedDocuments_some kind embedder host environment none]
    obtain ⟨after, left, kept, ended⟩ := concluded_of_ends (kind.keep embedder) ends
    have sessions : kind.sessions (kind.keep embedder after) = after.sessions :=
      kind.sessions_remember embedder _
    intro last
    rw [kept, ended, sessions]
    exact left

/-- Closing leaves what closing the cache leaves, and nothing else is remembered. -/
theorem close_leaves (kind : EmbedderKind C E ρ) (embedder : E) (engine : Engine) :
    let shut := (kind.sessions embedder).close closingActions engine
    let after := kind.close embedder engine
    after.1.2 = kind.remember embedder
        { tokenizer := none, sessions := shut.1.2, labels := [] } ∧
      after.2.history = shut.2.history ∧ after.2.behaviour = shut.2.behaviour := by
  intro shut after
  simp only [after, close, bind_apply]
  split <;> exact ⟨rfl, rfl, rfl⟩

theorem InUse.opening (inUse : kind.InUse modelPath tokenizer config embedder engine) :
    ∃ opener before fresh after,
      kind.withTokenizer opener modelPath tokenizer config before = .ok fresh after := by
  induction inUse with
  | opened opens => exact ⟨_, _, _, _, opens⟩
  | embedded _ _ _ _ ih => exact ih
  | queried _ _ _ _ ih => exact ih
  | elsewhere _ _ ih => exact ih

def boundModel (kind : EmbedderKind C E ρ) (embedder : E)
    (compute : NamedBuffers → Nat → Float32) : BoundModel :=
  ⟨kind.binding embedder, kind.outputShape embedder, compute⟩

/-- The work on documents shows nothing of what is remembered. -/
def Shows (kind : EmbedderKind C E ρ)
    (shown : E → Tokenizer → (NamedBuffers → Nat → Float32) → List String →
      Transcript (List ρ)) : Prop :=
  ∀ embedder tokenizer compute host runtime documents,
    Regular (kind.boundModel embedder compute) tokenizer
      (host.files.present (kind.binding embedder).modelPath = true)
      (kind.work embedder (kind.source embedder host runtime) tokenizer documents) id
      (shown embedder tokenizer compute documents)

/-- What shows of embedding documents, given what shows of the work on them. -/
def answered (environment : Environment) (documents : List String) (shown : Transcript (List ρ)) :
    Transcript (List ρ) :=
  if documents.isEmpty then return []
  else do
    let _ ← .ofExcept (runtimeOf environment)
    shown

/-- An embedder that only differs from a fresh one in what it remembers. -/
structure Serving (kind : EmbedderKind C E ρ) (fresh : E) (tokenizer : Tokenizer)
    (compute : NamedBuffers → Nat → Float32) (embedder : E) (engine : Engine) : Prop where
  same : ∃ memory, embedder = kind.remember fresh memory
  given : (kind.memory embedder).tokenizer = some tokenizer
  ready : Ready (kind.boundModel fresh compute) tokenizer .unknown (kind.start embedder engine)

variable {shown : E → Tokenizer → (NamedBuffers → Nat → Float32) → List String →
  Transcript (List ρ)}

namespace Serving

theorem embedBatch_eq (serving : kind.Serving fresh tokenizer compute embedder engine) (host : Host)
    (environment : Environment) (documents : List String) :
    kind.embedBatch embedder host environment documents =
      EmbedAction.ofExcept (runtimeOf environment) >>= fun runtime =>
        kind.work fresh (kind.source fresh host runtime) tokenizer documents := by
  rw [embedBatch_open serving.given]
  obtain ⟨memory, rfl⟩ := serving.same
  rw [kind.work_remember, source_remember]

theorem binding_eq (serving : kind.Serving fresh tokenizer compute embedder engine) :
    kind.binding embedder = kind.binding fresh := by
  obtain ⟨memory, rfl⟩ := serving.same
  exact kind.binding_remember fresh memory

/-- What a batch session must have depends on nothing that is remembered. -/
theorem ready_own (serving : kind.Serving fresh tokenizer compute embedder engine) :
    Ready (kind.boundModel embedder compute) tokenizer .unknown (kind.start embedder engine) := by
  have ready := serving.ready
  obtain ⟨memory, same⟩ := serving.same
  have model : kind.boundModel embedder compute = kind.boundModel fresh compute := by
    rw [same, boundModel, boundModel, kind.binding_remember, kind.outputShape_remember]
  rw [model]
  exact ready

theorem embedBatch_regular (serving : kind.Serving fresh tokenizer compute embedder engine)
    (shows : kind.Shows shown) (host : Host) (environment : Environment)
    (documents : List String) :
    Regular (kind.boundModel fresh compute) tokenizer
      (host.files.present (kind.binding fresh).modelPath = true)
      (kind.embedBatch embedder host environment documents) id
      (do
        let _ ← .ofExcept (runtimeOf environment)
        shown fresh tokenizer compute documents) := by
  rw [serving.embedBatch_eq]
  exact (ofExcept_regular _).bindPlain fun runtime =>
    shows fresh tokenizer compute host runtime documents

theorem embedDocuments (serving : kind.Serving fresh tokenizer compute embedder engine)
    (shows : kind.Shows shown) (host : Host) (environment : Environment)
    (documents : List String) :
    kind.Serving fresh tokenizer compute
      (kind.embedDocuments embedder host environment documents engine).1.2
      (kind.embedDocuments embedder host environment documents engine).2 := by
  by_cases none : documents.isEmpty = true
  · rw [embedDocuments_none kind embedder host environment none]
    exact serving
  · rw [embedDocuments_some kind embedder host environment none]
    obtain ⟨after, ready, kept, ended⟩ := concluded_of_ends (kind.keep embedder)
      ((serving.embedBatch_regular shows host environment documents).keeps _ serving.ready)
    rw [kept, ended]
    obtain ⟨memory, same⟩ := serving.same
    let left : EmbedderMemory :=
      { kind.memory embedder with sessions := after.sessions, labels := after.labels }
    refine ⟨⟨left, ?_⟩, (kind.tokenizer_remember embedder left).trans serving.given, ?_⟩
    · change kind.remember embedder left = _
      rw [same, kind.remember_remember]
    · have forgetful := ready.forgetful (kind.labels_remember embedder left)
      rw [start, keep, kind.sessions_remember]
      exact forgetful

/-- What comes out of embedding, and what is handed over for it, depends on nothing that is
remembered. -/
theorem answers (serving : kind.Serving fresh tokenizer compute embedder engine)
    (shows : kind.Shows shown) (present : host.files.present (kind.binding fresh).modelPath = true)
    (obliging : engine.Obliging (kind.binding fresh).modelPath compute) (environment : Environment)
    (documents : List String) :
    let answer := answered environment documents (shown fresh tokenizer compute documents)
    (kind.embedDocuments embedder host environment documents engine).1.1 = answer.result ∧
      (kind.embedDocuments embedder host environment documents engine).2.handedSince engine =
        answer.handed := by
  unfold answered
  by_cases none : documents.isEmpty = true
  · rw [if_pos none, embedDocuments_none kind embedder host environment none]
    exact ⟨rfl, Engine.handedSince_append (show engine.history = [] ++ engine.history from rfl)⟩
  · rw [if_neg none, embedDocuments_some kind embedder host environment none]
    exact concluded_alike ((serving.embedBatch_regular shows host environment documents).ends_alike
      present serving.ready obliging)

end Serving

theorem serving_configured {capacity : Nat} {sessions : SessionCache BatchSession} {settled : C}
    (made : SessionCache.new capacity = .ok sessions) (others : SessionCache BatchSession)
    (compute : NamedBuffers → Nat → Float32) (engine : Engine) :
    kind.Serving (kind.configured modelPath tokenizer settled others) tokenizer compute
      (kind.configured modelPath tokenizer settled sessions) engine where
  same := ⟨_, (kind.remember_build modelPath settled _ _).symm⟩
  given := kind.tokenizer_configured modelPath tokenizer settled sessions
  ready := by
    have found := kind.sessions_configured modelPath tokenizer settled sessions
    rw [EmbedderKind.sessions] at found
    rw [start, found, kind.labels_configured]
    exact ready_of_new made _ tokenizer engine

theorem InUse.serving (inUse : kind.InUse modelPath tokenizer config embedder engine)
    (opened : kind.withTokenizer host modelPath tokenizer config after = .ok fresh later)
    (shows : kind.Shows shown) (compute : NamedBuffers → Nat → Float32) :
    kind.Serving fresh tokenizer compute embedder engine := by
  obtain ⟨-, -, settled, sessions, derived, -, rfl⟩ := withTokenizer_ok opened
  -- By induction on what was done with the embedder since it was opened.
  induction inUse with
  | opened former =>
      obtain ⟨-, -, settledToo, sessionsToo, derivedToo, made, rfl⟩ := withTokenizer_ok former
      obtain rfl := Except.ok.inj (derived.symm.trans derivedToo)
      exact serving_configured made sessions compute _
  | embedded host environment documents _ serving =>
      exact serving.embedDocuments shows host environment documents
  | queried host environment query _ serving =>
      exact serving.embedDocuments shows host environment [query]
  | elsewhere _ grown serving =>
      exact ⟨serving.same, serving.given, serving.ready.elsewhere grown⟩

theorem modelPath_of_opened
    (opened : kind.withTokenizer host modelPath tokenizer config engine = .ok fresh after) :
    (kind.binding fresh).modelPath = modelPath := by
  obtain ⟨-, -, settled, sessions, -, -, rfl⟩ := withTokenizer_ok opened
  exact kind.binding_build _ _ _

/-- An embedder in use cannot be told from one that is opened now. -/
theorem embedDocuments_alike (inUse : kind.InUse modelPath tokenizer config embedder engine)
    (opens : kind.withTokenizer host modelPath tokenizer config engine = .ok fresh after)
    (shows : kind.Shows shown) (obliging : engine.Obliging modelPath compute)
    (environment : Environment) (documents : List String) :
    let reused := kind.embedDocuments embedder host environment documents engine
    let anew := kind.embedDocuments fresh host environment documents after
    reused.1.1 = anew.1.1 ∧ reused.2.handedSince engine = anew.2.handedSince after := by
  have serving := inUse.serving opens shows compute
  have servingAnew := (InUse.opened opens).serving opens shows compute
  obtain ⟨opening, -⟩ := withTokenizer_ok opens
  rw [← modelPath_of_opened opens] at obliging opening
  have reused := serving.answers shows opening.present obliging environment documents
  have anew := servingAnew.answers shows opening.present
    (obliging.congr opening.history opening.behaviour) environment documents
  exact ⟨reused.1.trans anew.1.symm, reused.2.trans anew.2.symm⟩

end EmbedderKind

end TextVectors

import TextVectors.Proofs.Embedding.Checks
import TextVectors.Proofs.Embedding.Transparency

namespace TextVectors

/-! Embedders in every state that they can be brought into.

An embedder is in use or closed.  While it is in use it keeps the settings of a valid
configuration, and every session in its cache has the sizes of its batch.
-/

open Inference EmbedAction

namespace SessionCache

/-- Closing leaves nothing behind, whatever fails. -/
theorem close_entries (sessions : SessionCache BatchSession) (engine : Engine) :
    (sessions.close closingActions engine).1.2.entries = [] := by
  cases ended : destroyAll closingActions sessions.entries engine with
  | mk failures after =>
      simp only [close, bind_apply, ended]
      cases EmbeddingError.join failures <;> rfl

end SessionCache

namespace EmbedderKind

variable {C E ρ : Type}

/-- An embedder that was opened once, in either way, and has been used since, for whatever
documents and with whatever success.  It may have been closed. -/
inductive Reached (kind : EmbedderKind C E ρ) (modelPath : String) (config : C) : E → Engine → Prop
  | opened {host tokenizer engine embedder after} :
      kind.withTokenizer host modelPath tokenizer config engine = .ok embedder after →
        Reached kind modelPath config embedder after
  | read {host tokenizerPath engine embedder after} :
      kind.fromFiles host modelPath tokenizerPath config engine = .ok embedder after →
        Reached kind modelPath config embedder after
  | embedded {embedder engine} (host environment documents) :
      Reached kind modelPath config embedder engine →
        Reached kind modelPath config
          (kind.embedDocuments embedder host environment documents engine).1.2
          (kind.embedDocuments embedder host environment documents engine).2
  | queried {embedder engine} (host environment query) :
      Reached kind modelPath config embedder engine →
        Reached kind modelPath config
          (kind.embedQuery embedder host environment query engine).1.2
          (kind.embedQuery embedder host environment query engine).2
  | closed {embedder engine} :
      Reached kind modelPath config embedder engine →
        Reached kind modelPath config (kind.close embedder engine).1.2
          (kind.close embedder engine).2
  /-- The library may be used by others, and may behave differently afterwards. -/
  | elsewhere {embedder engine later newer} :
      Reached kind modelPath config embedder engine → later.history = newer ++ engine.history →
        Reached kind modelPath config embedder later

variable {kind : EmbedderKind C E ρ} {embedder fresh live : E} {config : C}
variable {modelPath : String} {tokenizer : Tokenizer} {host : Host} {environment : Environment}
variable {documents : List String} {engine before after : Engine}
variable {shown : E → Tokenizer → (NamedBuffers → Nat → Float32) → List String →
  Transcript (List ρ)}

theorem opened_of_read {tokenizerPath : String}
    (read : kind.fromFiles host modelPath tokenizerPath config before = .ok fresh after) :
    ∃ tokenizer middle, middle.history = before.history ∧
      kind.withTokenizer host modelPath tokenizer config middle = .ok fresh after := by
  have reached : Attains (fun engine => engine.history = before.history)
      (kind.fromFiles host modelPath tokenizerPath config)
      (fun fresh after => ∃ tokenizer middle, middle.history = before.history ∧
        kind.withTokenizer host modelPath tokenizer config middle = .ok fresh after)
      (fun _ _ => True) := by
    refine Attains.bind (ofExcept_keeps _ _) fun _ => Attains.bind (ofExcept_keeps _ _) fun _ => ?_
    refine Attains.bind (Attains.ofMapFailure (ofExcept_keeps _ _)) fun _ => ?_
    refine Attains.bind (show Attains _ _ (fun _ engine => engine.history = before.history) _ from
      Attains.ofMapFailure (Attains.bind (loadTokenizer_keeps _ _ _) fun definition => ?_))
        fun definition middle kept => ?_
    · cases kind.fixedLength config with
      | some length =>
          exact Attains.bind (ofExcept_keeps _ _) fun _ => Attains.ofPure fun _ kept => kept
      | none => exact Attains.ofPure fun _ kept => kept
    · cases ended : kind.withTokenizer host modelPath
          (definition.tokenizer (kind.fixedLength config)) config middle with
      | ok fresh after => exact ⟨_, _, kept, ended⟩
      | error error after => trivial
  have ended := reached before rfl
  rw [read] at ended
  exact ended

/-- A closed embedder has given up its tokenizer and its sessions, and its settings are still
there. -/
structure Closed (kind : EmbedderKind C E ρ) (live embedder : E) : Prop where
  same : ∃ memory, embedder = kind.remember live memory
  gone : (kind.memory embedder).tokenizer = none
  nothing : (kind.sessions embedder).entries = []

theorem close_closed (kind : EmbedderKind C E ρ) (embedder : E) (engine : Engine) :
    kind.Closed embedder (kind.close embedder engine).1.2 := by
  obtain ⟨left, -⟩ := kind.close_leaves embedder engine
  rw [left]
  refine ⟨⟨_, rfl⟩, kind.tokenizer_remember _ _, ?_⟩
  rw [EmbedderKind.sessions, kind.sessions_remember]
  exact SessionCache.close_entries _ engine

theorem Closed.close (closed : kind.Closed live embedder) (engine : Engine) :
    kind.Closed live (kind.close embedder engine).1.2 := by
  obtain ⟨⟨memory, again⟩, gone, nothing⟩ := kind.close_closed embedder engine
  obtain ⟨former, same⟩ := closed.same
  refine ⟨⟨memory, ?_⟩, gone, nothing⟩
  rw [again, same, kind.remember_remember]

/-- Without a tokenizer nothing is asked of anyone. -/
theorem embedDocuments_closed (gone : (kind.memory embedder).tokenizer = none) (host : Host)
    (environment : Environment) (documents : List String) (engine : Engine) :
    kind.embedDocuments embedder host environment documents engine =
      ((if documents.isEmpty then .ok [] else .error .closed, embedder), engine) := by
  by_cases none : documents.isEmpty = true
  · rw [embedDocuments_none kind embedder host environment none, if_pos none]
  · rw [embedDocuments_some kind embedder host environment none, if_neg none, embedBatch, gone]
    have kept : kind.keep embedder (kind.start embedder engine) = embedder :=
      kind.remember_memory embedder
    change ((_, kind.keep embedder (kind.start embedder engine)), engine) = _
    rw [kept]

theorem Reached.settled (reached : kind.Reached modelPath config embedder engine) :
    ∃ tokenizer, kind.InUse modelPath tokenizer config embedder engine ∨
      ∃ live former, kind.InUse modelPath tokenizer config live former ∧
        kind.Closed live embedder := by
  induction reached with
  | opened opens => exact ⟨_, .inl (.opened opens)⟩
  | read opens =>
      obtain ⟨tokenizer, middle, -, opens⟩ := opened_of_read opens
      exact ⟨tokenizer, .inl (.opened opens)⟩
  | embedded host environment documents _ ih =>
      obtain ⟨tokenizer, inUse | ⟨live, former, inUse, closed⟩⟩ := ih
      · exact ⟨tokenizer, .inl (inUse.embedded host environment documents)⟩
      · rw [embedDocuments_closed closed.gone]
        exact ⟨tokenizer, .inr ⟨live, former, inUse, closed⟩⟩
  | queried host environment query _ ih =>
      obtain ⟨tokenizer, inUse | ⟨live, former, inUse, closed⟩⟩ := ih
      · exact ⟨tokenizer, .inl (inUse.queried host environment query)⟩
      · refine ⟨tokenizer, .inr ⟨live, former, inUse, ?_⟩⟩
        change kind.Closed live (kind.embedDocuments _ host environment [query] _).1.2
        rw [embedDocuments_closed closed.gone]
        exact closed
  | closed _ ih =>
      obtain ⟨tokenizer, inUse | ⟨live, former, inUse, closed⟩⟩ := ih
      · exact ⟨tokenizer, .inr ⟨_, _, inUse, kind.close_closed _ _⟩⟩
      · exact ⟨tokenizer, .inr ⟨live, former, inUse, closed.close _⟩⟩
  | elsewhere _ grown ih =>
      obtain ⟨tokenizer, inUse | ⟨live, former, inUse, closed⟩⟩ := ih
      · exact ⟨tokenizer, .inl (inUse.elsewhere grown)⟩
      · exact ⟨tokenizer, .inr ⟨live, former, inUse, closed⟩⟩

/-- An embedder in use serves for what it was configured as. -/
theorem InUse.served (inUse : kind.InUse modelPath tokenizer config embedder engine)
    (shows : kind.Shows shown) (compute : NamedBuffers → Nat → Float32) :
    kind.validate config = .ok () ∧ ∃ settled sessions,
      kind.settle tokenizer config = .ok settled ∧
      kind.Serving (kind.configured modelPath tokenizer settled sessions) tokenizer compute embedder
        engine := by
  obtain ⟨opener, before, fresh, after, opens⟩ := inUse.opening
  have serving := inUse.serving opens shows compute
  obtain ⟨-, valid, settled, sessions, derived, -, rfl⟩ := withTokenizer_ok opens
  exact ⟨valid, settled, sessions, derived, serving⟩

/-- Whatever it went through, an embedder has the settings of a valid configuration. -/
theorem Reached.configured (reached : kind.Reached modelPath config embedder engine)
    (shows : kind.Shows shown) :
    kind.validate config = .ok () ∧ ∃ tokenizer settled memory,
      kind.settle tokenizer config = .ok settled ∧
      embedder = kind.build modelPath settled memory := by
  obtain ⟨tokenizer, inUse | ⟨live, former, inUse, closed⟩⟩ := reached.settled
  · obtain ⟨valid, settled, sessions, derived, serving⟩ :=
      inUse.served shows fun _ _ => Binary32.zero
    obtain ⟨memory, same⟩ := serving.same
    refine ⟨valid, tokenizer, settled, memory, derived, ?_⟩
    rw [same, EmbedderKind.configured, kind.remember_build]
  · obtain ⟨valid, settled, sessions, derived, serving⟩ :=
      inUse.served shows fun _ _ => Binary32.zero
    obtain ⟨memory, same⟩ := serving.same
    obtain ⟨last, given⟩ := closed.same
    refine ⟨valid, tokenizer, settled, last, derived, ?_⟩
    rw [given, same, kind.remember_remember, EmbedderKind.configured, kind.remember_build]

/-- Where sessions that fit are exact and the work on documents delivers, batch sessions are exact
and documents get good results, whatever the embedder went through. -/
theorem Reached.checked (reached : kind.Reached modelPath config embedder engine)
    (shows : kind.Shows shown) {exact : Nat → BatchSession → Prop} {good : ρ → Prop}
    (fits : ∀ {batch bundle},
      (kind.boundModel embedder fun _ _ => Binary32.zero).Fits batch bundle → exact batch bundle)
    (work : ∀ tokenizer host runtime documents, documents ≠ [] →
      Delivers (kind.boundModel embedder fun _ _ => Binary32.zero) tokenizer
        (kind.work embedder (kind.source embedder host runtime) tokenizer documents)
        fun results => results.length = documents.length ∧ ∀ result ∈ results, good result) :
    (∀ host runtime batch before bundle after,
      (kind.source embedder host runtime).create batch before = .ok bundle after →
        exact batch bundle) ∧
    (∀ entry ∈ (kind.sessions embedder).entries, exact entry.1 entry.2) ∧
    ∀ host environment documents, documents ≠ [] →
      Delivered (kind.memory embedder).tokenizer documents good
        (kind.embedDocuments embedder host environment documents engine).1.1 := by
  refine ⟨?_, ?_⟩
  · intro host runtime batch before bundle after created
    exact fits ((kind.boundModel embedder _).fits_of_created created)
  obtain ⟨tokenizer, inUse | ⟨live, former, -, closed⟩⟩ := reached.settled
  · obtain ⟨-, settled, sessions, -, serving⟩ := inUse.served shows fun _ _ => Binary32.zero
    refine ⟨fun entry member => fits (serving.ready_own.guarded.suited entry member), ?_⟩
    intro host environment documents nonempty
    rw [serving.given]
    exact serving.delivers nonempty environment fun runtime =>
      work tokenizer host runtime documents nonempty
  · refine ⟨by simp [closed.nothing], ?_⟩
    intro host environment documents nonempty
    rw [embedDocuments_closed closed.gone, if_neg (by simpa using nonempty)]
    exact .closed closed.gone

end EmbedderKind

namespace DenseEmbedder

abbrev Reached (modelPath : String) (config : DenseConfig) : DenseEmbedder → Engine → Prop :=
  kind.Reached modelPath config

theorem positive_of_valid {config : DenseConfig} (valid : config.validate = .ok ()) :
    0 < config.model.sequenceLength ∧ 0 < config.embeddingDimension := by
  obtain ⟨_, model, valid⟩ := ok_of_bind valid
  obtain ⟨someTokens, -⟩ := ok_of_guard model
  split at valid
  · cases valid
  · rename_i some
    exact ⟨Nat.pos_of_ne_zero someTokens, Nat.pos_of_ne_zero some⟩

end DenseEmbedder

namespace SparseEmbedder

abbrev Reached (modelPath : String) (config : SparseConfig) : SparseEmbedder → Engine → Prop :=
  kind.Reached modelPath config

theorem positive_of_derived {tokenizer : Tokenizer} {configuredSize size : Nat}
    (derived : deriveVocabulary configuredSize tokenizer = .ok size) : 0 < size := by
  unfold deriveVocabulary at derived
  split at derived
  · split at derived
    · cases derived
    · rename_i some _
      cases derived
      exact Nat.pos_of_ne_zero some
    · cases derived
  · rename_i some
    cases derived
    exact Nat.pos_of_ne_zero some

theorem build_usable {config : SparseConfig} {size : Nat} (valid : config.validate = .ok ())
    (some : 0 < size) (word : size < wordLimit) (modelPath : String) (memory : EmbedderMemory) :
    (build modelPath { config with vocabularySize := size } memory).Usable := by
  obtain ⟨threshold, someTokens, strided⟩ := usable_of_valid valid
  exact ⟨threshold, Nat.pos_of_ne_zero someTokens, some, word, strided⟩

end SparseEmbedder

/-- Whatever an embedder went through and whatever the library does, its batch sessions have
exactly the cells that their sizes ask for, and a batch that is not empty ends with one good result
for each document, or with an error that is reported from outside: none of what embedders check
among themselves ever fails. -/
theorem checks_never_fail (modelPath : String) :
    (∀ (config : DenseConfig) (embedder : DenseEmbedder) (engine : Engine),
      DenseEmbedder.Reached modelPath config embedder engine →
        (∀ host runtime batch before bundle after,
          (⟨host, runtime, embedder.binding, embedder.outputShape⟩ : EmbedAction.Source).create
            batch before = .ok bundle after →
          bundle.Exact (batch * config.model.sequenceLength)
            (batch * config.model.sequenceLength * config.embeddingDimension)) ∧
        (∀ entry ∈ embedder.sessions.entries,
          entry.2.Exact (entry.1 * config.model.sequenceLength)
            (entry.1 * config.model.sequenceLength * config.embeddingDimension)) ∧
        ∀ host environment documents, documents ≠ [] →
          Delivered embedder.tokenizer documents (fun row => row.length = embedder.outputDimension)
            (embedder.embedDocuments host environment documents engine).1.1) ∧
    (∀ (config : SparseConfig) (embedder : SparseEmbedder) (engine : Engine),
      SparseEmbedder.Reached modelPath config embedder engine →
      embedder.vocabularySize < wordLimit →
        let outputs (batch : Nat) := (Sparse.outputSizes config.layout batch
          config.model.sequenceLength embedder.vocabularySize).prod
        (∀ host runtime batch before bundle after,
          (embedder.source host runtime).create batch before = .ok bundle after →
          bundle.Exact (batch * config.model.sequenceLength) (outputs batch)) ∧
        (∀ entry ∈ embedder.sessions.entries,
          entry.2.Exact (entry.1 * config.model.sequenceLength) (outputs entry.1)) ∧
        ∀ host environment documents, documents ≠ [] →
          Delivered embedder.tokenizer documents (fun vector => vector.validate = .ok ())
            (embedder.embedDocuments host environment documents engine).1.1) := by
  constructor
  · intro config embedder engine reached
    obtain ⟨valid, tokenizer, settled, memory, settles, rfl⟩ :=
      reached.configured DenseEmbedder.work_shows
    cases settles
    obtain ⟨someTokens, some⟩ := DenseEmbedder.positive_of_valid valid
    exact reached.checked DenseEmbedder.work_shows DenseEmbedder.exact_of_fits
      fun tokenizer host runtime documents nonempty =>
        DenseEmbedder.work_delivers someTokens some nonempty host runtime
  · intro config embedder engine reached word
    obtain ⟨valid, tokenizer, settled, memory, settles, rfl⟩ :=
      reached.configured SparseEmbedder.work_shows
    obtain ⟨size, derived, rfl⟩ := SparseEmbedder.settle_ok settles
    have some := SparseEmbedder.positive_of_derived derived
    exact reached.checked SparseEmbedder.work_shows (SparseEmbedder.exact_of_fits word)
      fun tokenizer host runtime documents nonempty =>
        SparseEmbedder.work_delivers (SparseEmbedder.build_usable valid some word _ _) nonempty
          host runtime

theorem fresh_opened :
    (∃ after, DenseEmbedder.withTokenizer trialHost "@/model.onnx" trialTokenizer trialDense
        trialEngine = .ok freshDense after ∧ trialEngine.history = [] ++ after.history) ∧
      ∃ after, SparseEmbedder.withTokenizer trialHost "@/model.onnx" trialTokenizer trialSparse
        trialEngine = .ok freshSparse after ∧ trialEngine.history = [] ++ after.history :=
  ⟨⟨_, rfl, rfl⟩, ⟨_, rfl, rfl⟩⟩

theorem fresh_reached :
    DenseEmbedder.Reached "@/model.onnx" trialDense freshDense trialEngine ∧
      SparseEmbedder.Reached "@/model.onnx" trialSparse freshSparse trialEngine := by
  obtain ⟨⟨after, opened, nothing⟩, ⟨last, openedToo, nothingToo⟩⟩ := fresh_opened
  exact ⟨.elsewhere (.opened opened) nothing, .elsewhere (.opened openedToo) nothingToo⟩

theorem tried_reached :
    DenseEmbedder.Reached "@/model.onnx" trialDense triedDense.1.2 triedDense.2 ∧
      SparseEmbedder.Reached "@/model.onnx" trialSparse triedSparse.1.2 triedSparse.2 :=
  ⟨.embedded _ _ _ fresh_reached.1, .embedded _ _ _ fresh_reached.2⟩

/-- After a failed run, for either kind of embedder. -/
theorem answers_after_failed_run :
    (triedDense.1.1.toOption = none ∧
      (∃ bundle, (1, bundle) ∈ triedDense.1.2.sessions.entries ∧ bundle.Exact 4 8) ∧
      ((triedDense.1.2.embedDocuments trialHost trialEnvironment ["a"] triedDense.2).1.1.toOption =
        some [[Float32.ofBits 0x3f800000, Float32.ofBits 0x3f800000]]) ∧
      Delivered (some trialTokenizer) ["a"] (fun row => row.length = 2)
        (triedDense.1.2.embedDocuments trialHost trialEnvironment ["a"] triedDense.2).1.1) ∧
    (triedSparse.1.1.toOption = none ∧
      (∃ bundle, (1, bundle) ∈ triedSparse.1.2.sessions.entries ∧ bundle.Exact 4 16) ∧
      ((triedSparse.1.2.embedDocuments trialHost trialEnvironment ["a"]
        triedSparse.2).1.1.toOption.isSome) ∧
      Delivered (some trialTokenizer) ["a"] (fun vector => vector.validate = .ok ())
        (triedSparse.1.2.embedDocuments trialHost trialEnvironment ["a"] triedSparse.2).1.1) := by
  obtain ⟨dense, sparse⟩ := tried_reached
  obtain ⟨-, cachedDense, delivers⟩ := (checks_never_fail "@/model.onnx").1 trialDense _ _ dense
  obtain ⟨-, cachedSparse, deliversToo⟩ :=
    (checks_never_fail "@/model.onnx").2 trialSparse _ _ sparse (by decide +kernel)
  obtain ⟨one, memberOne⟩ : ∃ bundle, (1, bundle) ∈ triedDense.1.2.sessions.entries :=
    ⟨_, List.mem_singleton.mpr rfl⟩
  obtain ⟨two, memberTwo⟩ : ∃ bundle, (1, bundle) ∈ triedSparse.1.2.sessions.entries :=
    ⟨_, List.mem_singleton.mpr rfl⟩
  refine ⟨⟨rfl, ⟨one, memberOne, cachedDense _ memberOne⟩, rfl, ?_⟩,
    ⟨rfl, ⟨two, memberTwo, cachedSparse _ memberTwo⟩, rfl, ?_⟩⟩
  · exact delivers trialHost trialEnvironment ["a"] (by simp)
  · exact deliversToo trialHost trialEnvironment ["a"] (by simp)

end TextVectors

import TextVectors.Proofs.Embedding.Failures

namespace TextVectors

/-! Closing an embedder is final.

Whatever an embedder made is held by the batch sessions in its cache, or it was released.  Closing
empties the cache, so that all of it was released, and a closed embedder does nothing any more.
-/

open Inference History EmbedAction

variable {C E ρ : Type}

namespace SessionCache

variable {sessions : SessionCache BatchSession}

/-- The same cache without entries. -/
def emptied (sessions : SessionCache BatchSession) : SessionCache BatchSession :=
  { sessions with entries := [], order := [] }

theorem Matched.emptied (matched : sessions.Matched) : sessions.emptied.Matched :=
  ⟨matched.consistent.empty, by simp [SessionCache.emptied]⟩

theorem matched_of_new {capacity : Nat} (made : new capacity = .ok sessions) :
    sessions.Matched := by
  obtain ⟨consistent, nothing, -⟩ := consistent_of_new made
  exact ⟨consistent, by simp [nothing]⟩

theorem destroyAll_frees (entries : List (Nat × BatchSession)) :
    Frees (entries.flatMap fun entry => entry.2.held) (destroyAll closingActions entries) := by
  induction entries with
  | nil => exact .ofPure []
  | cons entry rest ih =>
      refine .bind (.bindQuiet entry.2.dispose_frees fun _ => .ofPure _) fun result => ?_
      refine .bindQuiet ih fun failures => ?_
      cases result <;> exact .ofPure _

theorem close_ends (sessions : SessionCache BatchSession) (engine : Engine) :
    ∃ result handles last, sessions.close closingActions engine =
        ((result, sessions.emptied), last) ∧
      Stretch sessions.held [] engine last (releases handles) := by
  obtain ⟨handles, history, behaviour, among⟩ := destroyAll_frees sessions.entries engine
  have freed : Stretch sessions.held [] engine _ _ :=
    .freed history behaviour (List.subset_append_of_subset_left [] among)
  cases ended : destroyAll closingActions sessions.entries engine with
  | mk failures last =>
      rw [ended] at freed
      simp only [close, bind_apply, ended]
      cases EmbeddingError.join failures with
      | none => exact ⟨.ok (), handles, last, rfl, freed⟩
      | some error => exact ⟨.error error, handles, last, rfl, freed⟩

end SessionCache

/-- From one moment to another nothing gets lost: a cache still holds all that was there and all that
came into being, or it was released. -/
def Carried (before after : SessionCache BatchSession) (engine last : Engine) : Prop :=
  after.Matched ∧ ∃ newer, Stretch before.held after.held engine last newer

namespace EmbedderKind

variable {kind : EmbedderKind C E ρ}

inductive Use where
  | embed (host : Host) (environment : Environment) (documents : List String)
  | query (host : Host) (environment : Environment) (text : String)
  | close

/-- What an operation leaves, whatever comes out of it. -/
def remains {α : Type} (ended : (α × E) × Engine) : E × Engine :=
  (ended.1.2, ended.2)

def use (kind : EmbedderKind C E ρ) (found : E × Engine) : Use → E × Engine
  | .embed host environment documents =>
      remains (kind.embedDocuments found.1 host environment documents found.2)
  | .query host environment text => remains (kind.embedQuery found.1 host environment text found.2)
  | .close => remains (kind.close found.1 found.2)

/-- The objects that came into being from one moment to another. -/
def madeSince (after before : Engine) : List Handle :=
  History.created (after.eventsSince before)

/-- A part of an embedder's life, with the objects that came into being for it.  The library may be
used by others in between, and may behave differently afterwards. -/
inductive Life (kind : EmbedderKind C E ρ) (start : E × Engine) : List Handle → E × Engine → Prop
  | begun : Life kind start [] start
  | used {made found} (use : Use) : Life kind start made found →
      Life kind start (madeSince (kind.use found use).2 found.2 ++ made) (kind.use found use)
  | elsewhere {made found later newer} : Life kind start made found →
      later.history = newer ++ found.2.history → Life kind start made (found.1, later)

/-- An embedder that is closed for good. -/
structure Ended (kind : EmbedderKind C E ρ) (embedder : E) : Prop where
  empty : (kind.sessions embedder).entries = []
  unused : (kind.sessions embedder).batchSizes = []
  closed : kind.isClosed embedder = true
  embed : ∀ host environment documents engine,
    kind.embedDocuments embedder host environment documents engine =
      ((if documents.isEmpty then .ok [] else .error .closed, embedder), engine)
  query : ∀ host environment text engine,
    kind.embedQuery embedder host environment text engine = ((.error .closed, embedder), engine)
  close : ∀ engine, kind.close embedder engine = ((.ok (), embedder), engine)

variable {sizes : E → Tokenizer → List String → List Nat}

/-- What is left of an embedder that was closed. -/
def emptied (kind : EmbedderKind C E ρ) (embedder : E) : E :=
  kind.remember embedder
    { tokenizer := none, sessions := (kind.sessions embedder).emptied, labels := [] }

theorem sessions_emptied (kind : EmbedderKind C E ρ) (embedder : E) :
    kind.sessions (kind.emptied embedder) = (kind.sessions embedder).emptied :=
  kind.sessions_remember embedder _

theorem close_ends (kind : EmbedderKind C E ρ) (embedder : E) (engine : Engine) :
    (kind.close embedder engine).1.2 = kind.emptied embedder ∧
      ∃ handles, Stretch (kind.sessions embedder).held [] engine (kind.close embedder engine).2
        (releases handles) := by
  obtain ⟨result, handles, last, ended, stretch⟩ := (kind.sessions embedder).close_ends engine
  obtain ⟨left, history, behaviour⟩ := kind.close_leaves embedder engine
  rw [ended] at left history behaviour
  exact ⟨left, handles, stretch.apart history behaviour⟩

theorem close_emptied (kind : EmbedderKind C E ρ) (embedder : E) (engine : Engine) :
    kind.close (kind.emptied embedder) engine = ((.ok (), kind.emptied embedder), engine) := by
  have closes : (kind.sessions embedder).emptied.close closingActions engine =
      ((.ok (), (kind.sessions embedder).emptied), engine) := rfl
  simp only [close, emptied, kind.sessions_remember, kind.tokenizer_remember, bind_apply, closes,
    kind.remember_remember]
  rfl

theorem emptied_ended (kind : EmbedderKind C E ρ) (embedder : E) :
    kind.Ended (kind.emptied embedder) := by
  have gone : (kind.memory (kind.emptied embedder)).tokenizer = none :=
    kind.tokenizer_remember embedder _
  constructor
  case empty => rw [kind.sessions_emptied]; rfl
  case unused => rw [kind.sessions_emptied]; rfl
  case closed => rw [isClosed, gone]; rfl
  case embed => exact embedDocuments_closed gone
  case query =>
    intro host environment text engine
    have embedded := embedDocuments_closed gone host environment [text] engine
    simp only [embedQuery, bind_apply, embedded]
    rfl
  case close => exact kind.close_emptied embedder

/-- Closing an embedder is its end. -/
theorem use_close_ended (kind : EmbedderKind C E ρ) (found : E × Engine) :
    kind.Ended (kind.use found .close).1 := by
  change kind.Ended (kind.close found.1 found.2).1.2
  rw [(kind.close_ends found.1 found.2).1]
  exact kind.emptied_ended found.1

theorem embedDocuments_carries (runs : kind.RunsBatches sizes) {embedder : E}
    (matched : (kind.sessions embedder).Matched) (host : Host) (environment : Environment)
    (documents : List String) (engine : Engine) :
    let after := kind.embedDocuments embedder host environment documents engine
    Carried (kind.sessions embedder) (kind.sessions after.1.2) engine after.2 := by
  let holds (sessions : SessionCache BatchSession) (last : Engine) : Prop :=
    Carried (kind.sessions embedder) sessions engine last
  have carries {action : EmbedAction (List ρ)} (batches : List Nat)
      (serves : Serves batches action fun _ => True) :
      EndsIn (fun _ after => holds after.sessions after.engine)
        (fun _ after => holds after.sessions after.engine)
        (action (kind.start embedder engine)) := by
    refine (serves _ matched).weaken ?_ ?_ _ rfl
    · rintro value after ⟨newer, passage, -⟩
      exact ⟨passage.matched, newer, passage.stretch⟩
    · rintro error after ⟨newer, passage, -⟩
      exact ⟨passage.matched, newer, passage.stretch⟩
  have idle : holds (kind.sessions embedder) engine := ⟨matched, [], .still rfl rfl⟩
  refine embedDocuments_leaves holds idle ?_
  cases given : (kind.memory embedder).tokenizer with
  | none =>
      rw [embedBatch, given]
      exact carries [] (.ofThrow .closed)
  | some tokenizer =>
      exact carries _ (runs.embedBatch given host environment documents)

/-- Whatever an embedder is used for, nothing gets lost. -/
theorem use_carries (runs : kind.RunsBatches sizes) (found : E × Engine) (use : Use)
    (matched : (kind.sessions found.1).Matched) :
    let after := kind.use found use
    Carried (kind.sessions found.1) (kind.sessions after.1) found.2 after.2 := by
  obtain ⟨embedder, engine⟩ := found
  cases use with
  | embed host environment documents =>
      exact embedDocuments_carries runs matched host environment documents engine
  | query host environment text =>
      exact embedDocuments_carries runs matched host environment [text] engine
  | close =>
      obtain ⟨same, handles, stretch⟩ := kind.close_ends embedder engine
      change Carried (kind.sessions embedder)
        (kind.sessions (kind.close embedder engine).1.2) engine (kind.close embedder engine).2
      rw [same, kind.sessions_emptied]
      exact ⟨matched.emptied, _, stretch⟩

variable {start found final : E × Engine} {made : List Handle}

theorem made_of_stretch {given kept : List Handle} {engine last : Engine} {newer : History}
    {handle : Handle} (stretch : Stretch given kept engine last newer) :
    handle ∈ madeSince last engine ↔ handle ∈ newer.created := by
  rw [madeSince, Engine.eventsSince_append stretch.history]
  simp only [History.created, List.mem_filterMap, List.mem_reverse]

theorem madeSince_same {after before : Engine} (same : after.history = before.history) :
    madeSince after before = [] := by
  rw [madeSince, Engine.eventsSince_same same]
  rfl

/-- All that an embedder made is held by its cache, or it was released. -/
theorem Life.accounted (life : kind.Life start made final) (runs : kind.RunsBatches sizes)
    (matched : (kind.sessions start.1).Matched) :
    (kind.sessions final.1).Matched ∧ ∀ handle ∈ made,
      handle ∈ (kind.sessions final.1).held ∨ handle ∈ final.2.history.released := by
  induction life with
  | begun => exact ⟨matched, by simp⟩
  | used use _ ih =>
      obtain ⟨matched, known⟩ := ih
      obtain ⟨matchedAfter, newer, stretch⟩ := use_carries runs _ use matched
      refine ⟨matchedAfter, fun handle member => ?_⟩
      rw [stretch.history, released_append, List.mem_append]
      have carried (among : _ ∨ handle ∈ newer.created) := stretch.kept handle among
      rcases List.mem_append.mp member with recent | early
      · exact (carried (.inr ((made_of_stretch stretch).mp recent))).imp_right .inl
      · rcases known handle early with still | gone
        · exact (carried (.inl still)).imp_right .inl
        · exact .inr (.inr gone)
  | elsewhere _ grown ih =>
      refine ⟨ih.1, fun handle member => (ih.2 handle member).imp_right fun gone => ?_⟩
      rw [grown, released_append]
      exact List.mem_append_right _ gone

theorem Ended.use_eq (ended : kind.Ended found.1) (use : Use) : kind.use found use = found := by
  cases use with
  | embed host environment documents => rw [EmbedderKind.use, ended.embed]; rfl
  | query host environment text => rw [EmbedderKind.use, ended.query]; rfl
  | close => rw [EmbedderKind.use, ended.close]; rfl

/-- Nothing comes after the end of an embedder but what others do. -/
theorem Life.ended (life : kind.Life start made final) (ended : kind.Ended start.1) :
    final.1 = start.1 ∧ made = [] ∧ ∃ newer, final.2.history = newer ++ start.2.history := by
  induction life with
  | begun => exact ⟨rfl, rfl, [], rfl⟩
  | used use _ ih =>
      obtain ⟨same, rfl, newer, grown⟩ := ih
      rw [Ended.use_eq (same ▸ ended)]
      exact ⟨same, by rw [madeSince_same rfl, List.append_nil], newer, grown⟩
  | elsewhere _ further ih =>
      obtain ⟨same, nothing, newer, grown⟩ := ih
      exact ⟨same, nothing, _, by rw [further, grown, List.append_assoc]⟩

/-- Once it is closed, an embedder does nothing any more, and whatever it made was released. -/
theorem Life.closed {more : List Handle} {live : E × Engine} {before : Engine}
    (life : kind.Life start made live) (runs : kind.RunsBatches sizes)
    (opening : (kind.sessions start.1).Matched ∧ start.2.history = before.history)
    (later : kind.Life (kind.use live .close) more final) :
    kind.Ended final.1 ∧
      ∀ handle ∈ more ++ (madeSince (kind.use live .close).2 live.2 ++
          (made ++ madeSince start.2 before)),
        handle ∈ final.2.history.released := by
  obtain ⟨matched, same⟩ := opening
  have ended := kind.use_close_ended live
  obtain ⟨still, rfl, newer, grown⟩ := later.ended ended
  rw [still, madeSince_same same, List.append_nil]
  refine ⟨ended, fun handle member => ?_⟩
  have known := ((life.used .close).accounted runs matched).2 handle member
  have nothing : (kind.sessions (kind.use live .close).1).held = [] := by
    rw [SessionCache.held, ended.empty]
    rfl
  rw [nothing] at known
  rw [grown, released_append]
  exact List.mem_append_right _ (known.resolve_left List.not_mem_nil)

/-- The two ways in which an embedder is opened. -/
inductive Opens (kind : EmbedderKind C E ρ) (modelPath : String) (config : C) (before : Engine) :
    E → Engine → Prop
  | opened {host tokenizer fresh after} :
      kind.withTokenizer host modelPath tokenizer config before = .ok fresh after →
        Opens kind modelPath config before fresh after
  | read {host tokenizerPath fresh after} :
      kind.fromFiles host modelPath tokenizerPath config before = .ok fresh after →
        Opens kind modelPath config before fresh after

/-- Opening asks nothing of the library, and makes a new cache. -/
theorem Opens.begins {modelPath : String} {config : C} {before after : Engine} {fresh : E}
    (opens : kind.Opens modelPath config before fresh after) :
    (∃ capacity, SessionCache.new capacity = .ok (kind.sessions fresh)) ∧
      after.history = before.history := by
  have started {host tokenizer middle}
      (opened : kind.withTokenizer host modelPath tokenizer config middle = .ok fresh after) :
      (∃ capacity, SessionCache.new capacity = .ok (kind.sessions fresh)) ∧
        after.history = middle.history := by
    obtain ⟨opening, -, settled, sessions, -, made, rfl⟩ := withTokenizer_ok opened
    rw [kind.sessions_configured]
    exact ⟨⟨_, made⟩, opening.history⟩
  cases opens with
  | opened opened => exact started opened
  | read read =>
      obtain ⟨tokenizer, middle, same, opened⟩ := opened_of_read read
      rw [← same]
      exact started opened

end EmbedderKind

abbrev DenseEmbedder.Opens (modelPath : String) (config : DenseConfig) (before : Engine) :
    DenseEmbedder → Engine → Prop :=
  kind.Opens modelPath config before

abbrev SparseEmbedder.Opens (modelPath : String) (config : SparseConfig) (before : Engine) :
    SparseEmbedder → Engine → Prop :=
  kind.Opens modelPath config before

open EmbedderKind

/-- However an embedder was opened and used until it was closed once, and whatever is done with it
afterwards: nothing is cached, every object that was made for it was released, it answers that it is
closed to everything but an empty list, and it does nothing else. -/
theorem close_final (modelPath : String) (before opened : Engine) (made more : List Handle) :
    (∀ (config : DenseConfig) (fresh : DenseEmbedder) (live final : DenseEmbedder × Engine),
      DenseEmbedder.Opens modelPath config before fresh opened →
      DenseEmbedder.kind.Life (fresh, opened) made live →
      let closed := DenseEmbedder.kind.use live .close
      DenseEmbedder.kind.Life closed more final →
        DenseEmbedder.kind.Ended final.1 ∧
          ∀ handle ∈ more ++ (madeSince closed.2 live.2 ++ (made ++ madeSince opened before)),
            handle ∈ final.2.history.released) ∧
    (∀ (config : SparseConfig) (fresh : SparseEmbedder) (live final : SparseEmbedder × Engine),
      SparseEmbedder.Opens modelPath config before fresh opened →
      SparseEmbedder.kind.Life (fresh, opened) made live →
      let closed := SparseEmbedder.kind.use live .close
      SparseEmbedder.kind.Life closed more final →
        SparseEmbedder.kind.Ended final.1 ∧
          ∀ handle ∈ more ++ (madeSince closed.2 live.2 ++ (made ++ madeSince opened before)),
            handle ∈ final.2.history.released) ∧
    (∀ (embedder : DenseEmbedder) host environment engine,
      embedder.embedDocuments host environment [] engine = ((.ok [], embedder), engine)) ∧
    ∀ (embedder : SparseEmbedder) host environment engine,
      embedder.embedDocuments host environment [] engine = ((.ok [], embedder), engine) := by
  refine ⟨?_, ?_, fun _ _ _ _ => rfl, fun _ _ _ _ => rfl⟩
  · intro config fresh live final opens life closed later
    obtain ⟨⟨capacity, made⟩, same⟩ := opens.begins
    exact life.closed DenseEmbedder.work_runs ⟨SessionCache.matched_of_new made, same⟩ later
  · intro config fresh live final opens life closed later
    obtain ⟨⟨capacity, made⟩, same⟩ := opens.begins
    exact life.closed SparseEmbedder.work_runs ⟨SessionCache.matched_of_new made, same⟩ later

/-- An embedder whose first run failed, closed and then used again, for either kind. -/
theorem closed_after_failed_run :
    (let live := DenseEmbedder.kind.use (freshDense, trialEngine)
        (.embed trialHost trialEnvironment ["one two three"])
      let later := DenseEmbedder.kind.use (DenseEmbedder.kind.use live .close)
        (.embed trialHost trialEnvironment ["a"])
      DenseEmbedder.kind.Ended later.1 ∧
        (⟨.session, 1⟩ : Handle) ∈ madeSince live.2 trialEngine ∧
        ∀ handle ∈ madeSince live.2 trialEngine, handle ∈ later.2.history.released) ∧
    (let live := SparseEmbedder.kind.use (freshSparse, trialEngine)
        (.embed trialHost trialEnvironment ["one two three"])
      let later := SparseEmbedder.kind.use (SparseEmbedder.kind.use live .close)
        (.embed trialHost trialEnvironment ["a"])
      SparseEmbedder.kind.Ended later.1 ∧
        (⟨.session, 1⟩ : Handle) ∈ madeSince live.2 trialEngine ∧
        ∀ handle ∈ madeSince live.2 trialEngine, handle ∈ later.2.history.released) := by
  obtain ⟨⟨dense, opensDense, nothing⟩, ⟨sparse, opensSparse, nothingToo⟩⟩ := fresh_opened
  constructor
  · intro live later
    have life : DenseEmbedder.kind.Life (freshDense, dense) _ live :=
      .used _ (.elsewhere .begun nothing)
    obtain ⟨ended, released⟩ := (close_final "@/model.onnx" trialEngine dense _ _).1 trialDense
      freshDense _ later (.opened opensDense) life (.used _ .begun)
    have session : (⟨.session, 1⟩ : Handle) ∈ madeSince live.2 trialEngine := by decide +kernel
    refine ⟨ended, session, fun handle member => released handle ?_⟩
    exact List.mem_append_right _ (List.mem_append_right _ (List.mem_append_left _
      (List.mem_append_left _ member)))
  · intro live later
    have life : SparseEmbedder.kind.Life (freshSparse, sparse) _ live :=
      .used _ (.elsewhere .begun nothingToo)
    obtain ⟨ended, released⟩ := (close_final "@/model.onnx" trialEngine sparse _ _).2.1 trialSparse
      freshSparse _ later (.opened opensSparse) life (.used _ .begun)
    have session : (⟨.session, 1⟩ : Handle) ∈ madeSince live.2 trialEngine := by decide +kernel
    refine ⟨ended, session, fun handle member => released handle ?_⟩
    exact List.mem_append_right _ (List.mem_append_right _ (List.mem_append_left _
      (List.mem_append_left _ member)))

end TextVectors

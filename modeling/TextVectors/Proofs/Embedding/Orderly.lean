import TextVectors.Proofs.Embedding.Closing
import TextVectors.Proofs.Native.ReleaseOrder

namespace TextVectors

/-! Embedding keeps the order in which batch sessions are taken apart.

Whatever depends on the cached batch sessions and on the events alone is kept by everything that
embedding does, if running a batch keeps it.  Running a batch puts a whole batch session on top of
all others or takes whole batch sessions away.
-/

open Inference History

variable {α β : Type}

namespace EmbedAction

variable {holds : EmbedState → Prop}

/-- A condition on the cached batch sessions and the events alone. -/
def Stable (holds : EmbedState → Prop) : Prop :=
  ∀ before after : EmbedState, after.sessions = before.sessions →
    after.engine.history = before.engine.history → holds before → holds after

/-- An action that keeps a condition, whatever comes out of it. -/
def Preserves (holds : EmbedState → Prop) (action : EmbedAction α) (good : α → Prop) : Prop :=
  Attains holds action (fun value state => holds state ∧ good value) (fun _ => holds)

/-- Running batches through the runtime of an environment keeps a condition. -/
def Runs (holds : EmbedState → Prop) (environment : Environment) : Prop :=
  ∀ (source : Source) (batch : Nat)
    (fill : BatchSession → Except EmbeddingError Unit × BatchSession)
    (fillFailure : EmbeddingError → EmbeddingError) (runContext : String),
    environment.runtime = some source.runtime →
    (∀ bundle, ∃ buffers, (fill bundle).2 = bundle.setBuffers buffers) →
    Preserves holds (runBatch source batch fill fillFailure runContext) fun _ => True

namespace Preserves

variable {action : EmbedAction α} {next : α → EmbedAction β} {good : α → Prop}
variable {goodLast : β → Prop}

theorem ofPure (value : α) : Preserves holds (pure value : EmbedAction α) fun _ => True :=
  Attains.ofPure fun _ held => ⟨held, trivial⟩

theorem ofThrow (error : EmbeddingError) : Preserves holds (throw error : EmbedAction α) good :=
  Attains.ofThrow fun _ held => held

theorem bind (first : Preserves holds action good)
    (rest : ∀ value, good value → Preserves holds (next value) goodLast) :
    Preserves holds (action >>= next) goodLast :=
  Attains.bind first fun value state reached => rest value reached.2 state reached.1

theorem ofApart (stable : Stable holds) {action : Action EmbeddingError α}
    {result : Except EmbeddingError α} (apart : Apart action result) :
    Preserves holds (ofAction action) fun value => result = .ok value := by
  intro state held
  obtain ⟨after, history, -, ended⟩ := apart state.engine
  have heldAfter : holds { state with engine := after } := stable state _ rfl history held
  unfold ofAction
  rw [ended]
  cases result with
  | ok value => exact ⟨heldAfter, rfl⟩
  | error error => exact heldAfter

theorem ofExcept (stable : Stable holds) (result : Except EmbeddingError α) :
    Preserves holds (EmbedAction.ofExcept result) fun value => result = .ok value :=
  ofApart stable (.ofExcept result)

theorem last (stable : Stable holds) (result : Except EmbeddingError α) :
    Preserves holds (EmbedAction.ofExcept result) fun _ => True :=
  (ofExcept stable result).weaken (fun _ _ reached => ⟨reached.1, trivial⟩) fun _ _ held => held

theorem bindStep (stable : Stable holds) {step : Step α} {value : α}
    (apart : Apart (liftM step : Action EmbeddingError α) (.ok value))
    (rest : Preserves holds (next value) goodLast) :
    Preserves holds (ofStep step >>= next) goodLast := by
  have kept : Preserves holds (ofStep step) _ := ofApart stable apart
  refine kept.bind fun found same => ?_
  cases same
  exact rest

theorem mapM {operation : α → EmbedAction β}
    (each : ∀ value, Preserves holds (operation value) fun _ => True) (values : List α) :
    Preserves holds (values.mapM operation) fun _ => True := by
  induction values with
  | nil => exact .ofPure []
  | cons value rest ih =>
      rw [List.mapM_cons]
      exact (each value).bind fun _ _ => ih.bind fun _ _ => .ofPure _

end Preserves

end EmbedAction

open EmbedAction

section Embedding

variable {holds : EmbedState → Prop} {environment : Environment}

theorem runtimeOf_ok {runtime : Runtime} (ready : runtimeOf environment = .ok runtime) :
    environment.runtime = some runtime := by
  unfold runtimeOf at ready
  cases loaded : environment.runtime with
  | none =>
      rw [loaded] at ready
      cases ready
  | some known =>
      rw [loaded] at ready
      cases ready
      rfl

theorem embedRows_preserves {ρ : Type} (stable : Stable holds) (runs : Runs holds environment)
    {source : Source} (loaded : environment.runtime = some source.runtime) (tokenizer : Tokenizer)
    (reduce : Reduction ρ) (runContext : String) (documents : List String) :
    Preserves holds (embedRows source tokenizer reduce runContext documents) fun _ => True := by
  have encodes := encodeAll_apart tokenizer 0 documents
  refine (Preserves.ofApart stable encodes).bind fun encodings _ => ?_
  refine (runs source _ _ _ _ loaded ?_).bind fun bundle _ => .last stable _
  exact fun bundle => bundle.fillEncodings_setBuffers encodings

namespace EmbedderKind

variable {C E ρ : Type} {kind : EmbedderKind C E ρ}

/-- Working on documents keeps whatever running batches keeps. -/
def Preserving (kind : EmbedderKind C E ρ) : Prop :=
  ∀ {holds : EmbedState → Prop} {environment : Environment} (embedder : E) (source : Source)
    (tokenizer : Tokenizer) (documents : List String),
    Stable holds → Runs holds environment → environment.runtime = some source.runtime →
      Preserves holds (kind.work embedder source tokenizer documents) fun _ => True

theorem embedBatch_preserves (preserving : kind.Preserving) (stable : Stable holds)
    (runs : Runs holds environment) (embedder : E) (host : Host) (documents : List String) :
    Preserves holds (kind.embedBatch embedder host environment documents) fun _ => True := by
  cases given : (kind.memory embedder).tokenizer with
  | none =>
      rw [embedBatch, given]
      exact .ofThrow .closed
  | some tokenizer =>
      rw [embedBatch_open given]
      refine (Preserves.ofExcept stable (runtimeOf environment)).bind fun runtime ready => ?_
      exact preserving embedder _ tokenizer documents stable runs (runtimeOf_ok ready)

end EmbedderKind

theorem DenseEmbedder.work_preserves : kind.Preserving := by
  intro holds environment embedder source tokenizer documents stable runs loaded
  exact embedRows_preserves stable runs loaded tokenizer embedder.poolRows _ documents

namespace SparseEmbedder

variable (embedder : SparseEmbedder) {source : EmbedAction.Source} (tokenizer : Tokenizer)

theorem embedFixed_preserves (stable : Stable holds) (runs : Runs holds environment)
    (loaded : environment.runtime = some source.runtime) (documents : List String) :
    Preserves holds (embedder.embedFixed source tokenizer documents) fun _ => True :=
  embedRows_preserves stable runs loaded tokenizer embedder.sparsifyRows _ documents

theorem embedWindows_preserves (stable : Stable holds) (runs : Runs holds environment)
    (loaded : environment.runtime = some source.runtime) (position : Nat) (document : String) :
    Preserves holds (embedder.embedWindows source tokenizer position document) fun _ => True := by
  refine .bindStep stable (windowsOf_apart embedder tokenizer document) ?_
  refine (Preserves.ofExcept stable _).bind fun windows _ => ?_
  refine .bindStep stable (.ofNote _ _) ?_
  refine (runs source _ _ _ _ loaded ?_).bind fun bundle _ => ?_
  · exact fun bundle => bundle.fillWindows_setBuffers windows
  · exact (Preserves.ofExcept stable _).bind fun _ _ => .last stable _

theorem embedSliding_preserves (stable : Stable holds) (runs : Runs holds environment)
    (loaded : environment.runtime = some source.runtime) (position : Nat)
    (documents : List String) :
    Preserves holds (embedder.embedSliding source tokenizer position documents) fun _ => True := by
  induction documents generalizing position with
  | nil => exact .ofPure []
  | cons document rest ih =>
      exact (embedder.embedWindows_preserves tokenizer stable runs loaded position document).bind
        fun _ _ => (ih (position + 1)).bind fun _ _ => .ofPure _

theorem labelOf_preserves (stable : Stable holds) (index : Nat) :
    Preserves holds (labelOf tokenizer index) fun _ => True := by
  have remembered (label : String) : Preserves holds (do
      modify fun state => { state with labels := (index, label) :: state.labels }
      return label) fun _ => True :=
    Attains.bind (Attains.ofModify fun state =>
      stable state { state with labels := (index, label) :: state.labels } rfl rfl)
        fun _ => Preserves.ofPure label
  unfold labelOf
  refine Attains.bind Attains.ofGet fun state before reached => ?_
  revert before
  suffices kept : Preserves holds _ fun _ => True from fun before reached => kept before reached.2
  cases state.labels.lookup index with
  | some label => exact .ofPure label
  | none =>
      dsimp only
      split
      · exact .ofThrow _
      · refine .bindStep stable (askDecode_apart tokenizer [index] false) ?_
        cases tokenizer.decode [index] false with
        | error error => exact .ofThrow _
        | ok label => exact remembered label

theorem attachLabels_preserves (stable : Stable holds) (vector : SparseVector) :
    Preserves holds (attachLabels tokenizer vector) fun _ => True := by
  unfold attachLabels
  split
  · exact .ofPure vector
  · exact (Preserves.mapM (labelOf_preserves tokenizer stable) _).bind fun _ _ => .ofPure _

theorem work_preserves : kind.Preserving := by
  intro holds environment embedder source tokenizer documents stable runs loaded
  refine (Preserves.ofApart stable (preprocess_apart _ 0 documents)).bind fun changed _ => ?_
  have labelling (vectors : List SparseVector) : Preserves holds
      (if embedder.returnLabels then vectors.mapM (attachLabels tokenizer)
        else return vectors) fun _ => True := by
    split
    · exact .mapM (attachLabels_preserves tokenizer stable) vectors
    · exact .ofPure vectors
  dsimp only
  split
  · exact (embedder.embedSliding_preserves tokenizer stable runs loaded 0 changed).bind
      fun vectors _ => labelling vectors
  · exact (embedder.embedFixed_preserves tokenizer stable runs loaded changed).bind
      fun vectors _ => labelling vectors

end SparseEmbedder

end Embedding

namespace BatchSession

variable {runtime : Runtime} {bundle : BatchSession} {batch : Nat}

theorem Suited.setBuffers (suited : bundle.Suited batch) (buffers : TokenBuffers) :
    (bundle.setBuffers buffers).Suited batch := by
  obtain ⟨same, runtime, root, standing⟩ := suited
  refine ⟨same, runtime, root, standing.ids, standing.mask, ?_, standing.output, standing.runtime,
    standing.session, (bundle.held_setBuffers buffers).trans standing.bound⟩
  rcases setBuffers_types bundle buffers with kept | ⟨tensor, cells, typed, changed⟩
  · rw [kept]
    exact standing.types
  · rw [changed]
    rintro _ ⟨⟩
    exact standing.types tensor typed

theorem Refilled.suited {changed : BatchSession} (refilled : bundle.Refilled changed)
    (suited : bundle.Suited batch) : changed.Suited batch := by
  obtain ⟨cells, -, rfl⟩ := refilled
  obtain ⟨same, runtime, root, standing⟩ := suited
  exact ⟨same, runtime, root, standing.ids, standing.mask, standing.types, standing.output,
    standing.runtime, standing.session, standing.bound⟩

end BatchSession

section

variable {earlier : History} {watch : List Handle → Prop} {given : Multiset (List Handle)}
variable {sessions : SessionCache BatchSession} {engine after : Engine}

theorem guarded_congr (guarded : (orderly earlier watch).Guarded sessions engine given)
    (same : after.history = engine.history) :
    (orderly earlier watch).Guarded sessions after given :=
  ⟨guarded.consistent, guarded.suited, Watched.congr guarded.vouched same⟩

theorem SessionCache.close_orderly
    (guarded : (orderly earlier watch).Guarded sessions engine given) :
    (orderly earlier watch).Guarded (sessions.close closingActions engine).1.2
      (sessions.close closingActions engine).2 given := by
  cases ran : sessions.close closingActions engine with
  | mk outcome last => exact (guarded.close (orderly_closing earlier watch) ran).2

end

namespace EmbedAction

variable {earlier : History} {watch : List Handle → Prop} {given : Multiset (List Handle)}
variable {bundle : BatchSession}

/-- The cached batch sessions, and others that are given, are taken apart in order. -/
def Orderly (earlier : History) (watch : List Handle → Prop) (given : Multiset (List Handle))
    (state : EmbedState) : Prop :=
  (orderly earlier watch).Guarded state.sessions state.engine given

theorem orderly_stable : Stable (Orderly earlier watch given) := by
  intro before after sessions history kept
  rw [Orderly, sessions]
  exact guarded_congr kept history

/-- A batch session is cached under its batch size. -/
def InOrder (earlier : History) (watch : List Handle → Prop) (given : Multiset (List Handle))
    (bundle : BatchSession) (state : EmbedState) : Prop :=
  Orderly earlier watch given state ∧ state.sessions.find? bundle.batch = some bundle

theorem acquire_orderly {source : Source} (root : source.runtime.environment.kind = .environment)
    (batch : Nat) :
    Attains (Orderly earlier watch given) (acquire source batch) (InOrder earlier watch given)
      (fun _ => Orderly earlier watch given) := by
  intro state kept
  unfold acquire
  cases ran : state.sessions.acquire source.actions batch state.engine with
  | mk outcome engine =>
      obtain ⟨result, sessions⟩ := outcome
      obtain ⟨guarded, -, stored, -⟩ := kept.acquire (orderly_source root earlier watch) ran
      cases result with
      | ok bundle =>
          have found := (stored bundle rfl).1
          refine ⟨guarded, ?_⟩
          rw [(guarded.suited_of_find? found).1]
          exact found
      | error error => exact guarded

/-- A batch session that is put back may have other contents. -/
theorem InOrder.store {changed : BatchSession} {state : EmbedState}
    (cached : InOrder earlier watch given bundle state) (same : changed.batch = bundle.batch)
    (held : changed.held = bundle.held)
    (suited : bundle.Suited bundle.batch → changed.Suited bundle.batch) :
    InOrder earlier watch given changed
      { state with sessions := state.sessions.update changed.batch changed } := by
  obtain ⟨kept, found⟩ := cached
  have fits := suited (kept.suited_of_find? found)
  rw [← same] at found fits
  refine ⟨kept.update found fits (congrArg singleton held), ?_⟩
  exact SessionCache.find?_update
    (SessionCache.mem_keys_of_entry (SessionCache.mem_entries_of_find? found)) changed

theorem runStored_orderly (bundle : BatchSession) (runContext : String) :
    Attains (InOrder earlier watch given bundle) (runStored bundle runContext)
      (fun _ => Orderly earlier watch given) (fun _ => Orderly earlier watch given) := by
  intro state reached
  obtain ⟨⟨consistent, suited, watched⟩, found⟩ := reached
  obtain ⟨newer, ended⟩ := bundle.run_piles state.engine
  have still := ended.elim (Watched.quiet watched) (Watched.cleared watched)
  have ran : InOrder earlier watch given bundle
      { state with engine := (bundle.run state.engine).2 } := ⟨⟨consistent, suited, still⟩, found⟩
  apply runStored_ends
  intro changed refilled
  have stored := ran.store refilled.batch refilled.held refilled.suited
  exact ⟨fun _ => stored.1, fun _ _ => stored.1⟩

theorem orderly_runs {environment : Environment}
    (roots : ∀ runtime, environment.runtime = some runtime →
      runtime.environment.kind = .environment) :
    Runs (Orderly earlier watch given) environment := by
  intro source batch fill fillFailure runContext loaded fills
  refine Attains.bind (acquire_orderly (roots _ loaded) batch) fun bundle => ?_
  obtain ⟨buffers, filled⟩ := fills bundle
  dsimp only
  rw [filled]
  have written : Attains (InOrder earlier watch given bundle) (store (bundle.setBuffers buffers))
      (fun _ => InOrder earlier watch given (bundle.setBuffers buffers))
      (fun _ => Orderly earlier watch given) :=
    Attains.ofModify fun _ cached => cached.store rfl (bundle.held_setBuffers buffers)
      fun suited => suited.setBuffers buffers
  refine Attains.bind written fun _ => ?_
  have checked : Attains (InOrder earlier watch given (bundle.setBuffers buffers))
      (EmbedAction.ofExcept ((fill bundle).1.mapError fillFailure))
      (fun _ => InOrder earlier watch given (bundle.setBuffers buffers))
      (fun _ => Orderly earlier watch given) := by
    intro state cached
    cases (fill bundle).1 with
    | ok _ => exact cached
    | error error => exact cached.1
  refine Attains.bind checked fun _ => (runStored_orderly _ runContext).weaken ?_ ?_
  · exact fun _ _ kept => ⟨kept, trivial⟩
  · exact fun _ _ kept => kept

end EmbedAction

/-- A loaded environment refers to a native one. -/
def Inference.Environment.Rooted (environment : Environment) : Prop :=
  ∀ runtime, environment.runtime = some runtime → runtime.environment.kind = .environment

namespace EmbedderKind

variable {C E ρ : Type} {kind : EmbedderKind C E ρ} {earlier : History}
variable {watch : List Handle → Prop} {given : Multiset (List Handle)}

def Use.Rooted : Use → Prop
  | .embed _ environment _ | .query _ environment _ => environment.Rooted
  | .close => True

theorem embedDocuments_orderly (preserving : kind.Preserving) {environment : Environment}
    (rooted : environment.Rooted) (embedder : E) (host : Host) (documents : List String)
    (engine : Engine)
    (guarded : (orderly earlier watch).Guarded (kind.sessions embedder) engine given) :
    let after := kind.embedDocuments embedder host environment documents engine
    (orderly earlier watch).Guarded (kind.sessions after.1.2) after.2 given := by
  have runs : Runs (Orderly earlier watch given) environment := orderly_runs rooted
  have preserves := embedBatch_preserves preserving orderly_stable runs embedder host documents
  let holds (sessions : SessionCache BatchSession) (last : Engine) : Prop :=
    (orderly earlier watch).Guarded sessions last given
  refine embedDocuments_leaves holds guarded ?_
  exact preserves.weaken (fun _ _ kept => kept.1) (fun _ _ kept => kept) _ guarded

/-- Whatever an embedder is used for, what it caches and what is given is taken apart in order. -/
theorem use_orderly (preserving : kind.Preserving) (found : E × Engine) (use : Use)
    (rooted : use.Rooted)
    (guarded : (orderly earlier watch).Guarded (kind.sessions found.1) found.2 given) :
    let after := kind.use found use
    (orderly earlier watch).Guarded (kind.sessions after.1) after.2 given := by
  obtain ⟨embedder, engine⟩ := found
  cases use with
  | embed host environment documents =>
      exact embedDocuments_orderly preserving rooted embedder host documents engine guarded
  | query host environment text =>
      exact embedDocuments_orderly preserving rooted embedder host [text] engine guarded
  | close =>
      obtain ⟨left, same, -⟩ := kind.close_leaves embedder engine
      have sessions : kind.sessions (kind.close embedder engine).1.2 =
          ((kind.sessions embedder).close closingActions engine).1.2 := by
        rw [left]
        exact kind.sessions_remember _ _
      have closed := guarded_congr (SessionCache.close_orderly guarded) same
      rw [← sessions] at closed
      exact closed

end EmbedderKind

end TextVectors

import TextVectors.Proofs.Embedding.Dense
import TextVectors.Proofs.Embedding.Sparse

namespace TextVectors

/-! Of its host, an embedder only needs the file of its model.

Where the file is gone no session is created, and what succeeds then does so with cached sessions
alone: it succeeds in the same way with the file in place.
-/

open Inference

section Success

variable {σ ε α β : Type} {action other : EStateM ε σ α} {next following : α → EStateM ε σ β}

/-- What succeeds, succeeds in the same way for another action. -/
def Within (action other : EStateM ε σ α) : Prop :=
  ∀ state value after, action state = .ok value after → other state = .ok value after

theorem Within.refl (action : EStateM ε σ α) : Within action action :=
  fun _ _ _ succeeded => succeeded

theorem Within.bind (first : Within action other)
    (rest : ∀ value, Within (next value) (following value)) :
    Within (action >>= next) (other >>= following) := by
  intro state value after succeeded
  change EStateM.bind action next state = _ at succeeded
  change EStateM.bind other following state = _
  unfold EStateM.bind at succeeded ⊢
  cases ended : action state with
  | error error middle =>
      rw [ended] at succeeded
      cases succeeded
  | ok found middle =>
      rw [ended] at succeeded
      rw [first state found middle ended]
      exact rest found middle value after succeeded

theorem Within.attempt {action other : Action ε α} (within : Within action other)
    {engine after : Engine} {value : α}
    (succeeded : TextVectors.attempt action engine = (.ok value, after)) :
    TextVectors.attempt other engine = (.ok value, after) := by
  unfold TextVectors.attempt at succeeded ⊢
  cases ended : action engine with
  | error error middle =>
      rw [ended] at succeeded
      cases succeeded
  | ok found middle =>
      rw [ended] at succeeded
      rw [within engine found middle ended]
      exact succeeded

end Success

namespace SessionCache

variable {σ ρ : Type} [MonadNote (StateM σ)] {actions other : ResourceActions (StateM σ) ρ}
variable {cache rest : SessionCache ρ} {batch : Nat} {state after : σ} {resource : ρ}

theorem makeRoom_congr (same : other.destroy = actions.destroy) :
    cache.makeRoom other = cache.makeRoom actions := by
  unfold makeRoom evictOldest
  rw [same]

theorem acquire_within (other : ResourceActions (StateM σ) ρ)
    (created : ∀ state resource after, actions.create batch state = (.ok resource, after) →
      other.create batch state = (.ok resource, after))
    (acquired : cache.acquire actions batch state = ((.ok resource, rest), after))
    (same : other.destroy = actions.destroy) :
    cache.acquire other batch state = ((.ok resource, rest), after) := by
  unfold acquire at acquired ⊢
  by_cases zero : batch = 0
  · rw [if_pos zero] at acquired
    cases acquired
  rw [if_neg zero] at acquired ⊢
  cases found : cache.find? batch with
  | some cached =>
      rw [found] at acquired
      exact acquired
  | none =>
      simp only [found, add, bind_apply, makeRoom_congr same] at acquired ⊢
      cases roomed : cache.makeRoom actions state with
      | mk outcome middle =>
          obtain ⟨cleared, spare⟩ := outcome
          rw [roomed] at acquired
          cases cleared with
          | error error => cases acquired
          | ok _ =>
              cases made : actions.create batch middle with
              | mk outcome last =>
                  simp only [bind_apply, made] at acquired
                  cases outcome with
                  | error error => cases acquired
                  | ok fresh =>
                      simp only [bind_apply, created middle fresh last made]
                      exact acquired

end SessionCache

section Sources

variable {host withFile : Host} {runtime : Runtime} {binding : ModelBinding}
variable {outputShape : Nat → Except EmbeddingError (List Int)}

/-- Creating a session looks at nothing else of its host. -/
theorem Inference.Session.create_host {request : SessionRequest}
    (same : host.files.present request.modelPath = withFile.files.present request.modelPath)
    (runtime : Runtime) (options : SessionOptions) :
    create host runtime request options = create withFile runtime request options := by
  unfold create
  rw [same]

theorem BatchSession.create_within (present : withFile.files.present binding.modelPath = true)
    (runtime : Runtime) (batch : Nat) (shape : List Int) :
    Within (create host runtime binding batch shape)
      (create withFile runtime binding batch shape) := by
  by_cases held : host.files.present binding.modelPath = true
  · have sessions (ids mask : Tensor .int64) (types : Option (Tensor .int64))
        (output : Tensor .float) :
        Session.create host runtime (request binding ids mask types output) binding.options =
          Session.create withFile runtime (request binding ids mask types output)
            binding.options :=
      Session.create_host (held.trans present.symm) runtime binding.options
    have same : create host runtime binding batch shape =
        create withFile runtime binding batch shape := by
      unfold create
      simp only [sessions]
    rw [same]
    exact .refl _
  · -- Without the file, creating a session does not succeed.
    intro engine bundle after created
    have steady : Steady True fun _ => True :=
      ⟨fun _ _ _ => trivial, fun _ _ _ => trivial, fun _ failing => absurd trivial failing⟩
    have reached := create_attains steady host runtime binding batch shape engine trivial
    rw [created] at reached
    exact absurd (BoundModel.present_of_plan reached.2.2.1) held

namespace EmbedAction

theorem acquire_within (present : withFile.files.present binding.modelPath = true) (batch : Nat) :
    Within (acquire ⟨host, runtime, binding, outputShape⟩ batch)
      (acquire ⟨withFile, runtime, binding, outputShape⟩ batch) := by
  have sourced : Within (Source.create ⟨host, runtime, binding, outputShape⟩ batch)
      (Source.create ⟨withFile, runtime, binding, outputShape⟩ batch) :=
    (Within.refl _).bind fun shape => BatchSession.create_within present runtime batch shape
  intro state bundle after acquired
  unfold acquire at acquired ⊢
  cases reached : state.sessions.acquire
      (Source.actions ⟨host, runtime, binding, outputShape⟩) batch state.engine with
  | mk outcome engine =>
      obtain ⟨result, sessions⟩ := outcome
      rw [reached] at acquired
      cases result with
      | error error => cases acquired
      | ok found =>
          have again := SessionCache.acquire_within
            (Source.actions ⟨withFile, runtime, binding, outputShape⟩)
            (fun start resource last made => sourced.attempt made) reached rfl
          rw [again]
          exact acquired

theorem runBatch_within (present : withFile.files.present binding.modelPath = true) (batch : Nat)
    (fill : BatchSession → Except EmbeddingError Unit × BatchSession)
    (fillFailure : EmbeddingError → EmbeddingError) (runContext : String) :
    Within (runBatch ⟨host, runtime, binding, outputShape⟩ batch fill fillFailure runContext)
      (runBatch ⟨withFile, runtime, binding, outputShape⟩ batch fill fillFailure runContext) := by
  unfold runBatch
  exact (acquire_within present batch).bind fun _ => .refl _

theorem embedRows_within {ρ : Type} (present : withFile.files.present binding.modelPath = true)
    (tokenizer : Tokenizer) (reduce : Reduction ρ) (runContext : String)
    (documents : List String) :
    Within (embedRows ⟨host, runtime, binding, outputShape⟩ tokenizer reduce runContext documents)
      (embedRows ⟨withFile, runtime, binding, outputShape⟩ tokenizer reduce runContext
        documents) :=
  (Within.refl _).bind fun _ => (runBatch_within present _ _ _ _).bind fun _ => .refl _

end EmbedAction

end Sources

open EmbedAction

theorem concluded_within {α κ : Type} {keep : EmbedState → κ} {action other : EmbedAction α}
    {state : EmbedState} {value : α} (within : Within action other)
    (succeeded : (concluded keep (action state)).1.1 = .ok value) :
    concluded keep (other state) = concluded keep (action state) := by
  cases ended : action state with
  | error error after =>
      rw [ended] at succeeded
      cases succeeded
  | ok found after => rw [within state found after ended]

namespace EmbedderKind

variable {C E ρ : Type} {kind : EmbedderKind C E ρ} {embedder : E} {host withFile : Host}
variable {engine : Engine} {environment : Environment} {documents : List String}

/-- What succeeds without the file of the model succeeds in the same way with it. -/
def ModelAlone (kind : EmbedderKind C E ρ) : Prop :=
  ∀ embedder host withFile runtime tokenizer documents,
    withFile.files.present (kind.binding embedder).modelPath = true →
      Within (kind.work embedder (kind.source embedder host runtime) tokenizer documents)
        (kind.work embedder (kind.source embedder withFile runtime) tokenizer documents)

theorem embedDocuments_within (alone : kind.ModelAlone) {results : List ρ}
    (present : withFile.files.present (kind.binding embedder).modelPath = true)
    (succeeded : (kind.embedDocuments embedder host environment documents engine).1.1 =
      .ok results) :
    kind.embedDocuments embedder withFile environment documents engine =
      kind.embedDocuments embedder host environment documents engine := by
  by_cases none : documents.isEmpty = true
  · rw [embedDocuments_none kind embedder withFile environment none,
      embedDocuments_none kind embedder host environment none]
  · rw [embedDocuments_some kind embedder host environment none] at succeeded ⊢
    rw [embedDocuments_some kind embedder withFile environment none]
    refine concluded_within ?_ succeeded
    unfold embedBatch
    cases (kind.memory embedder).tokenizer with
    | none => exact .refl _
    | some tokenizer =>
        exact (Within.refl _).bind fun runtime =>
          alone embedder host withFile runtime tokenizer documents present

end EmbedderKind

theorem DenseEmbedder.work_modelAlone : kind.ModelAlone := by
  intro embedder host withFile runtime tokenizer documents present
  exact embedRows_within present tokenizer embedder.poolRows _ documents

namespace SparseEmbedder

variable {embedder : SparseEmbedder} {host withFile : Host}

theorem embedSliding_within (present : withFile.files.present embedder.binding.modelPath = true)
    (runtime : Runtime) (tokenizer : Tokenizer) (position : Nat) (documents : List String) :
    Within (embedder.embedSliding (embedder.source host runtime) tokenizer position documents)
      (embedder.embedSliding (embedder.source withFile runtime) tokenizer position documents) := by
  induction documents generalizing position with
  | nil => exact .refl _
  | cons document rest ih =>
      unfold embedSliding embedWindows
      refine Within.bind ?_ fun vector => (ih (position + 1)).bind fun _ => .refl _
      refine (Within.refl _).bind fun result => (Within.refl _).bind fun windows => ?_
      refine (Within.refl _).bind fun _ => ?_
      exact (EmbedAction.runBatch_within present _ _ _ _).bind fun _ => .refl _

theorem work_modelAlone : kind.ModelAlone := by
  intro embedder host withFile runtime tokenizer documents present
  change Within (embedder.work (embedder.source host runtime) tokenizer documents)
    (embedder.work (embedder.source withFile runtime) tokenizer documents)
  refine (Within.refl _).bind fun changed => ?_
  dsimp only
  split
  · exact (embedSliding_within present runtime tokenizer 0 changed).bind fun _ => .refl _
  · refine Within.bind ?_ fun _ => .refl _
    exact embedRows_within present tokenizer embedder.sparsifyRows _ changed

end SparseEmbedder

end TextVectors

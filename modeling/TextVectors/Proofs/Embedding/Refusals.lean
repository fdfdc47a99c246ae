import TextVectors.Proofs.Embedding.WindowRuns

namespace TextVectors

/-! Documents that are refused.

A pre-processor breaks down on a document, or a tokenizer refuses it.  Whatever else is wrong with
the documents, the first of them is named, and without windows nothing has been asked of the
library by then.  Where documents are cut into windows, the ones before it have been run.
-/

open Inference EmbedAction

variable {ε α β κ : Type}

/-- The first member that an operation refuses, with those before it. -/
structure FirstRefused (operation : α → Except ε β) (members before : List α) (refused : α)
    (error : ε) : Prop where
  split : ∃ after, members = before ++ refused :: after
  passed : ∀ earlier ∈ before, ∃ result, operation earlier = .ok result
  failed : operation refused = .error error

theorem exists_firstRefused {operation : α → Except ε β} {members : List α} {refused : α}
    {error : ε} (member : refused ∈ members) (failed : operation refused = .error error) :
    ∃ before first fault, FirstRefused operation members before first fault := by
  induction members with
  | nil => cases member
  | cons here rest ih =>
      cases tried : operation here with
      | error fault => exact ⟨[], here, fault, ⟨rest, rfl⟩, nofun, tried⟩
      | ok result =>
          have later : refused ∈ rest := by
            rcases List.mem_cons.mp member with same | later
            · rw [same, tried] at failed
              cases failed
            · exact later
          obtain ⟨before, first, fault, ⟨after, split⟩, passed, stopped⟩ := ih later
          exact ⟨here :: before, first, fault, ⟨after, congrArg (here :: ·) split⟩,
            List.forall_mem_cons.mpr ⟨⟨result, tried⟩, passed⟩, stopped⟩

theorem FirstRefused.ne_nil {operation : α → Except ε β} {members before : List α} {refused : α}
    {error : ε} (first : FirstRefused operation members before refused error) : members ≠ [] := by
  obtain ⟨after, rfl⟩ := first.split
  simp

theorem FirstRefused.unique {operation : α → Except ε β} {members before front : List α}
    {refused other : α} {error fault : ε}
    (one : FirstRefused operation members before refused error)
    (two : FirstRefused operation members front other fault) :
    before = front ∧ refused = other ∧ error = fault := by
  obtain ⟨⟨after, rfl⟩, passed, failed⟩ := one
  obtain ⟨⟨rest, split⟩, passedToo, failedToo⟩ := two
  induction before generalizing front with
  | nil =>
      cases front with
      | nil =>
          cases split
          cases failed.symm.trans failedToo
          exact ⟨rfl, rfl, rfl⟩
      | cons first front =>
          cases split
          obtain ⟨result, done⟩ := passedToo _ List.mem_cons_self
          cases failed.symm.trans done
  | cons here before ih =>
      cases front with
      | nil =>
          cases split
          obtain ⟨result, done⟩ := passed _ List.mem_cons_self
          cases failedToo.symm.trans done
      | cons first front =>
          injection split with same later
          subst same
          obtain ⟨-, passedRest⟩ := List.forall_mem_cons.mp passed
          obtain ⟨-, passedFront⟩ := List.forall_mem_cons.mp passedToo
          obtain ⟨rfl, agree⟩ := ih passedRest passedFront later
          exact ⟨rfl, agree⟩

/-- A call that fails before anything is asked of the library, and leaves the embedder with its
cache as it was. -/
structure Refused (engine : Engine) (embedder : κ) (error : EmbeddingError)
    (outcome : (Except EmbeddingError α × κ) × Engine) : Prop where
  result : outcome.1.1 = .error error
  kept : outcome.1.2 = embedder
  unasked : outcome.2.history = engine.history

/-- An engine that was asked nothing but these questions, oldest first. -/
def Engine.asked (engine : Engine) (questions : List Consultation) : Engine :=
  { engine with consultations := questions.reverse ++ engine.consultations }

theorem Engine.asked_cons (engine : Engine) (question : Consultation)
    (questions : List Consultation) :
    (consult question engine).2.asked questions = engine.asked (question :: questions) := by
  have consulted : (consult question engine).2 =
      { engine with consultations := question :: engine.consultations } := rfl
  simp [asked, consulted]

theorem Engine.consultationsSince_asked (engine : Engine) (questions : List Consultation) :
    (engine.asked questions).consultationsSince engine = questions := by
  rw [consultationsSince, asked, gained_append, List.reverse_reverse]

variable {documents before texts : List String} {refused : String} {engine : Engine}
variable {tokenizer : Tokenizer} {runtime : Runtime} {host : Host} {environment : Environment}

/-! ### Going through documents -/

/-- Documents are asked about one after the other, up to the first that is refused. -/
def Visits (operation : String → Except ε β) (question : String → Consultation)
    (wrap : Nat → ε → EmbeddingError)
    (visit : Nat → List String → Action EmbeddingError (List β)) : Prop :=
  ∀ position document rest engine,
    visit position (document :: rest) engine =
      let asked := (Engine.consult (question document) engine).2
      match operation document with
      | .error error => .error (wrap position error) asked
      | .ok result =>
          EStateM.bind (visit (position + 1) rest) (fun results => pure (result :: results)) asked

theorem Visits.stops {operation : String → Except ε β} {question : String → Consultation}
    {wrap : Nat → ε → EmbeddingError} {visit : Nat → List String → Action EmbeddingError (List β)}
    {error : ε} (visits : Visits operation question wrap visit)
    (first : FirstRefused operation documents before refused error) (position : Nat)
    (engine : Engine) :
    visit position documents engine =
      .error (wrap (position + before.length) error)
        (engine.asked ((before ++ [refused]).map question)) := by
  obtain ⟨⟨after, rfl⟩, passed, failed⟩ := first
  induction before generalizing position engine with
  | nil =>
      rw [List.nil_append, visits]
      simp only [failed]
      rfl
  | cons document rest ih =>
      obtain ⟨⟨result, found⟩, passedRest⟩ := List.forall_mem_cons.mp passed
      have later := ih (position + 1) (Engine.consult (question document) engine).2 passedRest
      rw [Engine.asked_cons, Nat.add_assoc, Nat.add_comm 1] at later
      rw [List.cons_append, visits]
      simp only [found]
      unfold EStateM.bind
      rw [later]
      rfl

theorem encodeAll_visits (tokenizer : Tokenizer) :
    Visits tokenizer.encode .encode
      (fun position fault => .context s!"failed to tokenize document {position}" (.tokenizer fault))
      (encodeAll tokenizer) := by
  intro position document rest engine
  cases encoded : tokenizer.encode document <;>
    simp only [encodeAll, Tokenizer.askEncode, encoded] <;> rfl

theorem preprocess_visits (processor : PreProcessor) :
    Visits processor.apply .preprocess
      (fun position breakdown => .preProcessorBreakdown position breakdown.message)
      (SparseEmbedder.preprocess (some processor)) := by
  intro position document rest engine
  cases applied : processor.apply document <;>
    simp only [SparseEmbedder.preprocess, applied] <;> rfl

section Actions

variable {action : Action EmbeddingError α} {next : α → EmbedAction β} {state : EmbedState}
variable {after : Engine}

theorem ofAction_ok {value : α} (done : action state.engine = .ok value after) :
    (ofAction action >>= next) state = next value { state with engine := after } := by
  change EStateM.bind (ofAction action) next state = _
  simp only [EStateM.bind, ofAction, done]

/-- An action that fails on the engine alone leaves the cache and the labels as they were. -/
theorem ofAction_error {error : EmbeddingError}
    (failed : action state.engine = .error error after) :
    (ofAction action >>= next) state = .error error { state with engine := after } := by
  change EStateM.bind (ofAction action) next state = _
  simp only [EStateM.bind, ofAction, failed]

end Actions

/-- A state that is fit for use whatever the library does is so where all calls succeed. -/
theorem EmbedAction.Ready.willing {model : BoundModel} {state : EmbedState}
    (ready : Ready model tokenizer .unknown state) (willing : state.engine.Willing) :
    Ready model tokenizer .willing state :=
  ⟨⟨ready.guarded.consistent, ready.guarded.suited, willing, ready.guarded.vouched.2⟩,
    ready.labelled⟩

/-! ### Calls -/

theorem runtimeOf_up (up : environment.runtime = some runtime) :
    runtimeOf environment = .ok runtime := by
  rw [runtimeOf, up]

/-- A document that the tokenizer refuses ends a batch before any of it is run. -/
theorem embedRows_refused {ρ : Type} {fault : TokenizerError}
    (first : FirstRefused tokenizer.encode documents before refused fault) (source : Source)
    (reduce : Reduction ρ) (runContext : String) (state : EmbedState) :
    embedRows source tokenizer reduce runContext documents state =
      .error (.context s!"failed to tokenize document {before.length}" (.tokenizer fault))
        { state with engine := state.engine.asked ((before ++ [refused]).map .encode) } := by
  have stopped := (encodeAll_visits tokenizer).stops first 0 state.engine
  rw [Nat.zero_add] at stopped
  exact ofAction_error stopped

namespace EmbedderKind

variable {C E ρ : Type} {kind : EmbedderKind C E ρ} {embedder : E}

theorem embedBatch_up (up : environment.runtime = some runtime)
    (given : (kind.memory embedder).tokenizer = some tokenizer) (host : Host)
    (documents : List String) :
    kind.embedBatch embedder host environment documents =
      kind.work embedder (kind.source embedder host runtime) tokenizer documents := by
  rw [embedBatch_open given, runtimeOf_up up]
  rfl

/-- Work that fails on the engine alone leaves the embedder as it was. -/
theorem embedDocuments_refused {error : EmbeddingError} {later : Engine}
    (up : environment.runtime = some runtime)
    (given : (kind.memory embedder).tokenizer = some tokenizer) (nonempty : documents ≠ [])
    (stopped : kind.work embedder (kind.source embedder host runtime) tokenizer documents
      (kind.start embedder engine) =
        .error error { kind.start embedder engine with engine := later }) :
    kind.embedDocuments embedder host environment documents engine =
      ((.error error, embedder), later) := by
  have kept : kind.keep embedder { kind.start embedder engine with engine := later } = embedder :=
    kind.remember_memory embedder
  rw [embedDocuments_some kind embedder host environment (by simpa using nonempty),
    embedBatch_up up given, stopped]
  change ((_, kind.keep embedder { kind.start embedder engine with engine := later }), later) = _
  rw [kept]

end EmbedderKind

theorem DenseEmbedder.embedDocuments_refused {embedder : DenseEmbedder} {fault : TokenizerError}
    (up : environment.runtime = some runtime) (given : embedder.tokenizer = some tokenizer)
    (first : FirstRefused tokenizer.encode documents before refused fault) (host : Host)
    (engine : Engine) :
    Refused engine embedder
      (.context s!"failed to tokenize document {before.length}" (.tokenizer fault))
      (embedder.embedDocuments host environment documents engine) := by
  rw [embedDocuments, EmbedderKind.embedDocuments_refused up given first.ne_nil
    (embedRows_refused first _ _ _ _)]
  exact ⟨rfl, rfl, rfl⟩

namespace SparseEmbedder

variable {embedder : SparseEmbedder} {processor : PreProcessor} {breakdown : Breakdown}
variable {fault : TokenizerError}

theorem work_broken (chosen : embedder.preProcessor = some processor)
    (first : FirstRefused processor.apply documents before refused breakdown) (source : Source)
    (tokenizer : Tokenizer) (state : EmbedState) :
    embedder.work source tokenizer documents state =
      .error (.preProcessorBreakdown before.length breakdown.message)
        { state with engine := state.engine.asked ((before ++ [refused]).map .preprocess) } := by
  have stopped := (preprocess_visits processor).stops first 0 state.engine
  rw [Nat.zero_add] at stopped
  rw [work, chosen]
  exact ofAction_error stopped

/-- A breakdown of the pre-processor ends a call before the tokenizer is asked, with windows and
without. -/
theorem embedDocuments_broken (up : environment.runtime = some runtime)
    (given : embedder.tokenizer = some tokenizer) (chosen : embedder.preProcessor = some processor)
    (first : FirstRefused processor.apply documents before refused breakdown) (host : Host)
    (engine : Engine) :
    let outcome := embedder.embedDocuments host environment documents engine
    Refused engine embedder (.preProcessorBreakdown before.length breakdown.message) outcome ∧
      outcome.2.consultationsSince engine = (before ++ [refused]).map .preprocess := by
  rw [embedDocuments, EmbedderKind.embedDocuments_refused up given first.ne_nil
    (work_broken chosen first _ _ _)]
  exact ⟨⟨rfl, rfl, rfl⟩, Engine.consultationsSince_asked engine _⟩

theorem ne_nil_of_map {change : String → Option String}
    (changed : documents.map change = texts.map some) (nonempty : texts ≠ []) :
    documents ≠ [] := by
  intro none
  rw [none] at changed
  exact nonempty (List.map_eq_nil_iff.mp changed.symm)

theorem work_refused (fixed : embedder.stride = 0)
    (changed : documents.map (changedBy embedder.preProcessor) = texts.map some)
    (first : FirstRefused tokenizer.encode texts before refused fault) (source : Source)
    (state : EmbedState) :
    ∃ later, later.history = state.engine.history ∧
      embedder.work source tokenizer documents state =
        .error (.context s!"failed to tokenize document {before.length}" (.tokenizer fault))
          { state with engine := later } := by
  obtain ⟨middle, history, -, processed⟩ :=
    preprocess_apart embedder.preProcessor 0 documents state.engine
  rw [preprocessed_of_map changed] at processed
  refine ⟨middle.asked ((before ++ [refused]).map .encode), history, ?_⟩
  refine (ofAction_ok processed).trans ?_
  dsimp only
  rw [if_neg (by omega)]
  change EStateM.bind _ _ _ = _
  rw [EStateM.bind, embedFixed, embedRows_refused first]

theorem embedDocuments_refused (up : environment.runtime = some runtime)
    (given : embedder.tokenizer = some tokenizer) (fixed : embedder.stride = 0)
    (changed : documents.map (changedBy embedder.preProcessor) = texts.map some)
    (first : FirstRefused tokenizer.encode texts before refused fault) (host : Host)
    (engine : Engine) :
    Refused engine embedder
      (.context s!"failed to tokenize document {before.length}" (.tokenizer fault))
      (embedder.embedDocuments host environment documents engine) := by
  obtain ⟨later, history, stopped⟩ := work_refused fixed changed first
    (kind.source embedder host runtime) (kind.start embedder engine)
  rw [embedDocuments, EmbedderKind.embedDocuments_refused up given
    (ne_nil_of_map changed first.ne_nil) stopped]
  exact ⟨rfl, rfl, history⟩

/-- A call that names the document that the tokenizer refused, after each of the documents before it
was run once, in their order, and nothing else was. -/
structure StoppedByTokenizer (embedder : SparseEmbedder) (tokenizer : Tokenizer)
    (before : List String) (fault : TokenizerError) (engine : Engine)
    (outcome : (Except EmbeddingError α × κ) × Engine) : Prop where
  result : outcome.1.1 = .error (.context
    s!"failed to tokenize sliding windows for document {before.length}" (.tokenizer fault))
  runs : before.mapM (embedder.windowBuffers tokenizer) = .ok (outcome.2.handedSince engine)

variable {outlook : Outlook} {compute : NamedBuffers → Nat → Float32} {modelPath : String}
variable {config : SparseConfig}

theorem work_stops (usable : embedder.Usable) (sliding : 0 < embedder.stride)
    (changed : documents.map (changedBy embedder.preProcessor) = texts.map some)
    (first : FirstRefused tokenizer.encode texts before refused fault) (runtime : Runtime)
    (present : outlook ≠ .unknown → host.files.present embedder.binding.modelPath = true)
    (lasting : (embedder.boundModel compute).Lasts outlook) :
    Hands (embedder.boundModel compute) tokenizer outlook
      (embedder.work (embedder.source host runtime) tokenizer documents)
      (fun _ _ => False)
      (fun error handed =>
        (before.mapM (embedder.windowBuffers tokenizer) = .ok handed ∧
          error = .context s!"failed to tokenize sliding windows for document {before.length}"
            (.tokenizer fault)) ∨
        embedder.Stuck tokenizer outlook before error) := by
  have processed := preprocessed_of_map changed 0
  obtain ⟨after, rfl⟩ := first.split
  have stops : Hands (embedder.boundModel compute) tokenizer outlook
      (embedder.embedSliding (embedder.source host runtime) tokenizer 0
        (before ++ refused :: after)) _ _ :=
    embedSliding_refused usable runtime present lasting first.passed first.failed 0
  rw [Nat.zero_add] at stops
  unfold work
  apply Hands.afterApart (preprocess_apart embedder.preProcessor 0 documents)
  · intro left found
    cases processed.symm.trans found
    dsimp only
    rw [if_pos sliding]
    apply stops.bind
    · intro vectors handed impossible
      exact impossible.elim
    · intro error handed reached
      exact reached
  · intro error failed
    cases processed.symm.trans failed

/-- The call either names the document that the tokenizer refused, or ends for another reason with
one of the documents before it. -/
theorem embedDocuments_stops (usable : embedder.Usable) (up : environment.runtime = some runtime)
    (given : embedder.tokenizer = some tokenizer) (sliding : 0 < embedder.stride)
    (changed : documents.map (changedBy embedder.preProcessor) = texts.map some)
    (first : FirstRefused tokenizer.encode texts before refused fault)
    (lasting : (embedder.boundModel compute).Lasts outlook)
    (ready : Ready (embedder.boundModel compute) tokenizer outlook (kind.start embedder engine))
    (host : Host)
    (present : outlook ≠ .unknown → host.files.present embedder.binding.modelPath = true) :
    let outcome := embedder.embedDocuments host environment documents engine
    StoppedByTokenizer embedder tokenizer before fault engine outcome ∨
      ∃ error, outcome.1.1 = .error error ∧ embedder.Stuck tokenizer outlook before error := by
  have stops := work_stops usable sliding changed first runtime present lasting _ ready
  have some := ne_nil_of_map changed first.ne_nil
  rw [embedDocuments, EmbedderKind.embedDocuments_some kind embedder host environment
    (by simpa using some), EmbedderKind.embedBatch_up up given]
  change EndsIn _ _ (kind.work embedder (kind.source embedder host runtime) tokenizer documents
    (kind.start embedder engine)) at stops
  cases ended : kind.work embedder (kind.source embedder host runtime) tokenizer documents
      (kind.start embedder engine) with
  | ok vectors after =>
      rw [ended] at stops
      obtain ⟨-, handed, -, impossible⟩ := stops
      exact impossible.elim
  | error error after =>
      rw [ended] at stops
      obtain ⟨handed, runs, ⟨ran, rfl⟩ | stuck⟩ := stops
      · left
        refine ⟨rfl, ran.trans ?_⟩
        rw [← runs.handedSince]
        rfl
      · exact .inr ⟨error, rfl, stuck⟩

theorem Reached.ready (reached : Reached modelPath config embedder engine)
    (given : embedder.tokenizer = some tokenizer) (word : embedder.vocabularySize < wordLimit)
    (compute : NamedBuffers → Nat → Float32) :
    embedder.Usable ∧ embedder.binding.modelPath = modelPath ∧
      Ready (embedder.boundModel compute) tokenizer .unknown (kind.start embedder engine) := by
  have ready : Ready (embedder.boundModel compute) tokenizer .unknown
      (kind.start embedder engine) := by
    obtain ⟨other, inUse | ⟨live, former, -, closed⟩⟩ := reached.settled
    · obtain ⟨-, settled, sessions, -, serving⟩ := inUse.served work_shows compute
      cases serving.given.symm.trans given
      exact serving.ready_own
    · cases closed.gone.symm.trans given
  obtain ⟨valid, other, settled, memory, settles, rfl⟩ := reached.configured work_shows
  obtain ⟨size, derived, rfl⟩ := settle_ok settles
  exact ⟨build_usable valid (positive_of_derived derived) word modelPath memory, rfl, ready⟩

theorem Reached.stopped (reached : Reached modelPath config embedder engine)
    (given : embedder.tokenizer = some tokenizer) (word : embedder.vocabularySize < wordLimit)
    (up : environment.runtime = some runtime) (sliding : 0 < embedder.stride)
    (changed : documents.map (changedBy embedder.preProcessor) = texts.map some)
    (first : FirstRefused tokenizer.encode texts before refused fault) (host : Host) :
    let outcome := embedder.embedDocuments host environment documents engine
    (StoppedByTokenizer embedder tokenizer before fault engine outcome ∨
      ∃ error, outcome.1.1 = .error error ∧ Untokenized error) ∧
    (engine.Willing → host.files.present modelPath = true →
      (∀ earlier ∈ before, ∃ buffers, embedder.windowBuffers tokenizer earlier = .ok buffers) →
        StoppedByTokenizer embedder tokenizer before fault engine outcome) := by
  obtain ⟨usable, rfl, ready⟩ := reached.ready given word fun _ _ => Binary32.zero
  constructor
  · have ended := embedDocuments_stops usable up given sliding changed first
      (BoundModel.lasts_unknown _) ready host (absurd rfl)
    exact ended.imp_right fun ⟨error, failed, stuck⟩ => ⟨error, failed, stuck.untokenized⟩
  · intro willing present run
    have ended := embedDocuments_stops usable up given sliding changed first
      (BoundModel.lasts_willing _) (ready.willing willing) host fun _ => present
    rcases ended with stopped | ⟨error, -, -, known | ⟨earlier, member, cause, stuck⟩⟩
    · exact stopped
    · cases known
    · obtain ⟨buffers, fits⟩ := run earlier member
      cases fits.symm.trans stuck

end SparseEmbedder

/-- The first document that is refused is named.  A breakdown of the pre-processor precedes every
question to the tokenizer and to the library.  Without windows so does a refusal of the tokenizer
precede every call, and the embedder is left with its sessions and labels as it was.  Where
documents are cut into windows, a refusal of the tokenizer comes after one run for each document
before, and no other.  If all calls succeed and those documents can be run, nothing else happens. -/
theorem refused_documents_named (host : Host) (environment : Environment) (runtime : Runtime)
    (up : environment.runtime = some runtime) (documents : List String) (engine : Engine) :
    (∀ (embedder : DenseEmbedder) (tokenizer : Tokenizer), embedder.tokenizer = some tokenizer →
      ∀ document ∈ documents, ∀ fault, tokenizer.encode document = .error fault →
        ∃ before refused fault, FirstRefused tokenizer.encode documents before refused fault ∧
          Refused engine embedder
            (.context s!"failed to tokenize document {before.length}" (.tokenizer fault))
            (embedder.embedDocuments host environment documents engine)) ∧
    (∀ (embedder : SparseEmbedder) (tokenizer : Tokenizer), embedder.tokenizer = some tokenizer →
      let outcome := embedder.embedDocuments host environment documents engine
      (∀ processor, embedder.preProcessor = some processor →
        ∀ document ∈ documents, ∀ breakdown, processor.apply document = .error breakdown →
          ∃ before broken breakdown,
            FirstRefused processor.apply documents before broken breakdown ∧
            Refused engine embedder (.preProcessorBreakdown before.length breakdown.message)
              outcome ∧
            outcome.2.consultationsSince engine = (before ++ [broken]).map .preprocess) ∧
      (∀ texts, documents.map (SparseEmbedder.changedBy embedder.preProcessor) = texts.map some →
        ∀ text ∈ texts, ∀ fault, tokenizer.encode text = .error fault →
          ∃ before refused fault, FirstRefused tokenizer.encode texts before refused fault ∧
            (embedder.stride = 0 → Refused engine embedder
              (.context s!"failed to tokenize document {before.length}" (.tokenizer fault))
              outcome) ∧
            (0 < embedder.stride → ∀ modelPath config,
              SparseEmbedder.Reached modelPath config embedder engine →
              embedder.vocabularySize < wordLimit →
                (embedder.StoppedByTokenizer tokenizer before fault engine outcome ∨
                  ∃ error, outcome.1.1 = .error error ∧ Untokenized error) ∧
                (engine.Willing → host.files.present modelPath = true →
                  (∀ earlier ∈ before, ∃ buffers,
                    embedder.windowBuffers tokenizer earlier = .ok buffers) →
                  embedder.StoppedByTokenizer tokenizer before fault engine outcome)))) := by
  constructor
  · intro embedder tokenizer given document member fault failed
    obtain ⟨before, refused, cause, first⟩ := exists_firstRefused member failed
    exact ⟨before, refused, cause, first,
      DenseEmbedder.embedDocuments_refused up given first host engine⟩
  · intro embedder tokenizer given outcome
    constructor
    · intro processor chosen document member breakdown failed
      obtain ⟨before, broken, cause, first⟩ := exists_firstRefused member failed
      exact ⟨before, broken, cause, first,
        SparseEmbedder.embedDocuments_broken up given chosen first host engine⟩
    · intro texts changed text member fault failed
      obtain ⟨before, refused, cause, first⟩ := exists_firstRefused member failed
      refine ⟨before, refused, cause, first, ?_, ?_⟩
      · intro fixed
        exact SparseEmbedder.embedDocuments_refused up given fixed changed first host engine
      · intro sliding modelPath config reached word
        exact reached.stopped given word up sliding changed first host

section Trial

/-- Encodes texts as the trial tokenizer does, except for one. -/
def wearyTokenizer : Tokenizer where
  encode text :=
    if text = "too much" then .error (.encodeFailed "weary") else trialTokenizer.encode text
  decode := trialTokenizer.decode
  vocabularySize := some 4

def wearyProcessor : PreProcessor where
  apply text := if text = "far too much" then .error (.text "gone") else .ok text

def wearyDense : DenseEmbedder :=
  .configured "@/model.onnx" wearyTokenizer trialDense ⟨8, [], []⟩

def wearyConfig (stride : Nat) : SparseConfig :=
  { trialSparse with stride, preProcessor := some wearyProcessor }

def wearySparse (stride : Nat) : SparseEmbedder :=
  .configured "@/model.onnx" wearyTokenizer (wearyConfig stride) 4 ⟨8, [], []⟩

/-- A text that is refused twice, after one that is cut into two windows. -/
def wearyTexts : List String :=
  ["one two three four five", "a", "too much", "b", "too much"]

theorem weary_refused : FirstRefused wearyTokenizer.encode wearyTexts
    ["one two three four five", "a"] "too much" (.encodeFailed "weary") where
  split := ⟨_, rfl⟩
  passed := by
    simp only [List.forall_mem_cons, List.not_mem_nil, false_imp_iff, implies_true, and_true]
    exact ⟨⟨_, rfl⟩, ⟨_, rfl⟩⟩
  failed := rfl

theorem weary_reached : SparseEmbedder.Reached "@/model.onnx" (wearyConfig 2) (wearySparse 2)
    echoEngine := by
  obtain ⟨after, opened, nothing⟩ : ∃ after, SparseEmbedder.withTokenizer trialHost "@/model.onnx"
      wearyTokenizer (wearyConfig 2) echoEngine = .ok (wearySparse 2) after ∧
        echoEngine.history = [] ++ after.history := ⟨_, rfl, rfl⟩
  exact .elsewhere (.opened opened) nothing

def wearyBroken : (Except EmbeddingError (List SparseVector) × SparseEmbedder) × Engine :=
  (wearySparse 2).embedDocuments trialHost trialEnvironment ["too much", "far too much"] echoEngine

def wearyStopped : (Except EmbeddingError (List SparseVector) × SparseEmbedder) × Engine :=
  (wearySparse 2).embedDocuments trialHost trialEnvironment wearyTexts echoEngine

/-- Two refusals without windows and with them, and a breakdown behind a refusal. -/
theorem first_refusals_named :
    Refused echoEngine wearyDense
      (.context "failed to tokenize document 2" (.tokenizer (.encodeFailed "weary")))
      (wearyDense.embedDocuments trialHost trialEnvironment wearyTexts echoEngine) ∧
    Refused echoEngine (wearySparse 0)
      (.context "failed to tokenize document 2" (.tokenizer (.encodeFailed "weary")))
      ((wearySparse 0).embedDocuments trialHost trialEnvironment wearyTexts echoEngine) ∧
    Refused echoEngine (wearySparse 2) (.preProcessorBreakdown 1 "gone") wearyBroken ∧
    wearyBroken.2.consultationsSince echoEngine =
      [.preprocess "too much", .preprocess "far too much"] ∧
    (wearySparse 2).StoppedByTokenizer wearyTokenizer ["one two three four five", "a"]
      (.encodeFailed "weary") echoEngine wearyStopped ∧
    (wearyStopped.2.handedSince echoEngine).map firstIds =
      [[3, 3, 5, 4, 5, 4, 4, 0], [1, 0, 0, 0]] := by
  have member : "too much" ∈ wearyTexts := by simp [wearyTexts]
  obtain ⟨dense, sparse⟩ := refused_documents_named trialHost trialEnvironment _ rfl wearyTexts
    echoEngine
  obtain ⟨_, _, _, first, refusedDense⟩ :=
    dense wearyDense wearyTokenizer rfl "too much" member _ rfl
  obtain ⟨rfl, rfl, rfl⟩ := weary_refused.unique first
  obtain ⟨_, _, _, first, refusedFixed, -⟩ :=
    (sparse (wearySparse 0) wearyTokenizer rfl).2 wearyTexts rfl "too much" member _ rfl
  obtain ⟨rfl, rfl, rfl⟩ := weary_refused.unique first
  obtain ⟨_, _, _, first, -, refusedSliding⟩ :=
    (sparse (wearySparse 2) wearyTokenizer rfl).2 wearyTexts rfl "too much" member _ rfl
  obtain ⟨rfl, rfl, rfl⟩ := weary_refused.unique first
  obtain ⟨-, stops⟩ := refusedSliding (by decide) _ _ weary_reached (by decide +kernel)
  have willing : echoEngine.Willing := (echo_obliging echoEngine rfl).succeeds
  have run : ∀ earlier ∈ ["one two three four five", "a"], ∃ buffers,
      (wearySparse 2).windowBuffers wearyTokenizer earlier = .ok buffers := by
    have cut : ∀ earlier ∈ ["one two three four five", "a"],
        ((wearySparse 2).windowBuffers wearyTokenizer earlier).toOption.isSome = true := by
      decide +kernel
    intro earlier among
    obtain ⟨buffers, found⟩ := Option.isSome_iff_exists.mp (cut earlier among)
    exact ⟨buffers, ok_of_toOption found⟩
  obtain ⟨-, others⟩ := refused_documents_named trialHost trialEnvironment _ rfl
    ["too much", "far too much"] echoEngine
  obtain ⟨_, _, _, first, broken, asked⟩ := (others (wearySparse 2) wearyTokenizer rfl).1
    wearyProcessor rfl "far too much" (by simp) _ rfl
  have firstBroken : FirstRefused wearyProcessor.apply ["too much", "far too much"] ["too much"]
      "far too much" (.text "gone") :=
    ⟨⟨[], rfl⟩, List.forall_mem_singleton.mpr ⟨_, rfl⟩, rfl⟩
  obtain ⟨rfl, rfl, rfl⟩ := firstBroken.unique first
  exact ⟨refusedDense, refusedFixed rfl, broken, asked, stops willing (by decide +kernel) run,
    by decide +kernel⟩

end Trial

end TextVectors

import TextVectors.Proofs.Embedding.Failures

namespace TextVectors

/-! What documents in windows are run on.

A document that is embedded in windows is run once, on a row for each of them, and a document that
its tokenizer refuses is not run.  That holds whatever the library does.  Where all calls succeed,
nothing but the document itself keeps it from being run.
-/

open Inference EmbedAction

variable {α β : Type}

/-- An error that no tokenizer is the cause of. -/
def Untokenized (error : EmbeddingError) : Prop :=
  ∀ text fault, error ≠ .context text (.tokenizer fault)

theorem Foreseen.untokenized {error : EmbeddingError} (foreseen : Foreseen none error) :
    Untokenized error := by
  intro text fault same
  subst same
  cases foreseen <;> contradiction

theorem History.handed_of_idle {newer : History} (idle : newer.callCount .run = 0) :
    newer.handed = [] := by
  rw [History.callCount, List.countP_eq_zero] at idle
  rw [History.handed, List.filterMap_eq_nil_iff]
  intro event member
  have other := idle event member
  unfold Event.handed?
  split
  · simp [Event.function?, Call.function] at other
  · rfl

/-- What runs were handed between two states of the library, in their order. -/
def Engine.Handed (before after : Engine) (handed : List NamedBuffers) : Prop :=
  ∃ newer, after.history = newer ++ before.history ∧ newer.handed.reverse = handed

namespace Engine.Handed

variable {before middle after : Engine} {handed further : List NamedBuffers}

theorem still (same : after.history = before.history) : before.Handed after [] :=
  ⟨[], same, rfl⟩

theorem trans (first : before.Handed middle handed) (second : middle.Handed after further) :
    before.Handed after (handed ++ further) := by
  obtain ⟨newer, grown, rfl⟩ := first
  obtain ⟨newest, grownLast, rfl⟩ := second
  refine ⟨newest ++ newer, ?_, ?_⟩
  · rw [grownLast, grown, List.append_assoc]
  · rw [History.handed, List.filterMap_append, List.reverse_append]
    rfl

theorem handedSince (given : before.Handed after handed) : after.handedSince before = handed := by
  obtain ⟨newer, grown, rfl⟩ := given
  exact Engine.handedSince_append grown

end Engine.Handed

namespace EmbedAction

variable {model : BoundModel} {tokenizer : Tokenizer} {outlook : Outlook} {host : Host}

/-- An action that starts fit for use, with what its runs are handed until it ends. -/
def Hands (model : BoundModel) (tokenizer : Tokenizer) (outlook : Outlook)
    (action : EmbedAction α) (done : α → List NamedBuffers → Prop)
    (failed : EmbeddingError → List NamedBuffers → Prop) : Prop :=
  ∀ start, Ready model tokenizer outlook start → EndsIn
    (fun value after => Ready model tokenizer outlook after ∧
      ∃ handed, start.engine.Handed after.engine handed ∧ done value handed)
    (fun error after => ∃ handed, start.engine.Handed after.engine handed ∧ failed error handed)
    (action start)

namespace Hands

variable {action : EmbedAction α} {next : α → EmbedAction β}
variable {done between : α → List NamedBuffers → Prop} {last : β → List NamedBuffers → Prop}
variable {failed stopped : EmbeddingError → List NamedBuffers → Prop}

theorem ofApart {action : Action EmbeddingError α} {result : Except EmbeddingError α}
    (apart : Apart action result) :
    Hands model tokenizer outlook (ofAction action)
      (fun value handed => result = .ok value ∧ handed = [])
      (fun error handed => result = .error error ∧ handed = []) := by
  intro start ready
  obtain ⟨after, history, behaviour, ended⟩ := apart start.engine
  unfold ofAction
  rw [ended]
  cases result with
  | ok value => exact ⟨ready.moved history behaviour, [], .still history, rfl, rfl⟩
  | error error => exact ⟨[], .still history, rfl, rfl⟩

theorem ofPure {value : α} (holds : done value []) :
    Hands model tokenizer outlook (pure value : EmbedAction α) done failed :=
  fun _ ready => ⟨ready, [], .still rfl, holds⟩

theorem bind (first : Hands model tokenizer outlook action between stopped)
    (rest : ∀ value handed, between value handed → Hands model tokenizer outlook (next value)
      (fun result further => last result (handed ++ further))
      (fun error further => failed error (handed ++ further)))
    (stops : ∀ error handed, stopped error handed → failed error handed) :
    Hands model tokenizer outlook (action >>= next) last failed := by
  intro start ready
  have reached := first start ready
  change EndsIn _ _ (EStateM.bind action next start)
  unfold EStateM.bind
  cases ended : action start with
  | error error after =>
      rw [ended] at reached
      obtain ⟨handed, given, why⟩ := reached
      exact ⟨handed, given, stops error handed why⟩
  | ok value middle =>
      rw [ended] at reached
      obtain ⟨readyToo, handed, given, holds⟩ := reached
      have reachedLast := rest value handed holds middle readyToo
      dsimp only
      cases endedLast : next value middle with
      | error error after =>
          rw [endedLast] at reachedLast
          obtain ⟨further, givenToo, why⟩ := reachedLast
          exact ⟨handed ++ further, given.trans givenToo, why⟩
      | ok result after =>
          rw [endedLast] at reachedLast
          obtain ⟨readyLast, further, givenToo, holdsToo⟩ := reachedLast
          exact ⟨readyLast, handed ++ further, given.trans givenToo, holdsToo⟩

/-- What is asked of no run before an action. -/
theorem afterApart {action : Action EmbeddingError α} {result : Except EmbeddingError α}
    (apart : Apart action result)
    (rest : ∀ value, result = .ok value → Hands model tokenizer outlook (next value) last failed)
    (stops : ∀ error, result = .error error → failed error []) :
    Hands model tokenizer outlook (ofAction action >>= next) last failed := by
  apply (ofApart apart).bind
  · intro value handed reached
    obtain ⟨found, rfl⟩ := reached
    exact rest value found
  · intro error handed reached
    obtain ⟨found, rfl⟩ := reached
    exact stops error found

theorem afterStep {step : Step α} {value : α}
    (apart : Apart (liftM step : Action EmbeddingError α) (.ok value))
    (rest : Hands model tokenizer outlook (next value) last failed) :
    Hands model tokenizer outlook (ofStep step >>= next) last failed := by
  have first : Hands model tokenizer outlook (ofStep step) _ _ := ofApart apart
  apply first.bind
  · intro found handed reached
    obtain ⟨same, rfl⟩ := reached
    cases same
    exact rest
  · intro error handed reached
    cases reached.1

end Hands

section Batches

variable {batch : Nat} {bundle : BatchSession} {start middle : EmbedState}
variable {fill : BatchSession → Except EmbeddingError Unit × BatchSession}
variable {write : TokenBuffers → Except EmbeddingError Unit × TokenBuffers}
variable {fillFailure : EmbeddingError → EmbeddingError}

theorem prepare_untokenized {source : Source} (positive : batch ≠ 0)
    (shaped : ∀ batch error, source.outputShape batch = .error error → Foreseen none error)
    (filling : ∀ bundle error, (fill bundle).1 = .error error → Untokenized (fillFailure error)) :
    Attains (fun state => state.sessions.Consistent) (prepare source batch fill fillFailure)
      (fun _ _ => True) (fun error _ => Untokenized error) := by
  have acquired : Attains (fun state => state.sessions.Consistent) (acquire source batch)
      (fun _ _ => True) (fun error _ => Untokenized error) :=
    (acquire_foreseen positive shaped).weaken (fun _ _ _ => trivial)
      fun _ _ foreseen => foreseen.untokenized
  apply Attains.bind acquired
  intro bundle state _
  change EndsIn _ _ (EStateM.bind (EmbedAction.ofExcept _) _ _)
  cases filled : (fill bundle).1 with
  | ok _ => trivial
  | error error => exact filling bundle error filled

theorem prepare_hands (writes : Writes batch model.binding.sequenceLength fill write)
    (keeps : BatchSession.Keeps fill) (runtime : Runtime) (positive : batch ≠ 0)
    (shaped : ∀ batch error, model.outputShape batch = .error error → Foreseen none error)
    (filling : ∀ bundle error, (fill bundle).1 = .error error → Untokenized (fillFailure error))
    (usable : outlook ≠ .unknown → host.files.present model.binding.modelPath = true)
    (ready : Ready model tokenizer outlook start) :
    Attains (· = start) (prepare (model.source host runtime) batch fill fillFailure)
      (fun bundle after => Stored model tokenizer outlook batch bundle after ∧
        model.prepared batch write fillFailure = .ok (bundle.buffers, bundle.output.cells.length) ∧
        start.engine.Handed after.engine [])
      (fun error after => (∃ handed, start.engine.Handed after.engine handed) ∧
        Untokenized error ∧
        (outlook = .unknown ∨ ∃ cause, model.prepared batch write fillFailure = .error cause)) := by
  have reaches : Attains (Ready model tokenizer outlook)
      (prepare (model.source host runtime) batch fill fillFailure) _ _ :=
    prepare_reaches writes runtime fillFailure usable
  have serves := prepare_serves keeps (model.source host runtime) batch fillFailure ready.matched
  have untokenized : Attains _ (prepare (model.source host runtime) batch fill fillFailure) _ _ :=
    prepare_untokenized positive shaped filling
  intro state same
  subst same
  apply ((reaches.both serves).both untokenized).weaken
  case a => exact ⟨⟨ready, rfl⟩, ready.guarded.consistent⟩
  case weaker =>
    intro bundle after reached
    obtain ⟨⟨⟨stored, planned⟩, newer, underway⟩, -⟩ := reached
    refine ⟨stored, planned, newer, underway.passage.stretch.history, ?_⟩
    rw [History.handed_of_idle underway.ran]
    rfl
  case weakerFailed =>
    intro error after reached
    obtain ⟨⟨⟨-, why⟩, newer, passage, -⟩, other⟩ := reached
    exact ⟨⟨_, newer, passage.stretch.history, rfl⟩, other,
      why.imp_right fun failed => ⟨_, failed⟩⟩

theorem runStored_hands (fits : model.Fits batch bundle) (runContext : String)
    (state : EmbedState) :
    Attains (· = state) (runStored bundle runContext)
      (fun _ after => state.engine.Handed after.engine [model.named bundle.buffers])
      (fun error after => (∃ handed, state.engine.Handed after.engine handed) ∧
        (∃ failure, error = .context runContext (.runtime failure)) ∧
        state.engine.nextAnswer .run ≠ .success) := by
  intro state same
  subst same
  have asked := fits.run_asks state.engine
  let holds (engine : Engine) : Prop := ∃ newer, engine.history = newer ++ state.engine.history
  have survives : ∀ engine event, holds engine → holds (engine.recorded event) := by
    intro engine event grown
    obtain ⟨newer, grown⟩ := grown
    exact ⟨event :: newer, congrArg (event :: ·) grown⟩
  have grows := BatchSession.run_survives survives bundle state.engine ⟨[], rfl⟩
  apply runStored_ends
  intro changed _
  constructor
  · intro well
    rw [well] at asked
    obtain ⟨event, handed, recorded⟩ := asked
    rw [recorded]
    refine ⟨[event], rfl, ?_⟩
    rw [History.handed, List.filterMap_cons, handed]
    rfl
  · intro failure failed
    rw [failed] at asked
    obtain ⟨newer, grown⟩ := grows
    exact ⟨⟨_, newer, grown, rfl⟩, ⟨failure, rfl⟩, asked⟩

/-- A batch is run once, on its rows, or not at all.  Where all calls succeed, it is run if it can
be prepared. -/
theorem runBatch_hands (writes : Writes batch model.binding.sequenceLength fill write)
    (keeps : BatchSession.Keeps fill) (runtime : Runtime) (positive : batch ≠ 0)
    (shaped : ∀ batch error, model.outputShape batch = .error error → Foreseen none error)
    (filling : ∀ bundle error, (fill bundle).1 = .error error → Untokenized (fillFailure error))
    (usable : outlook ≠ .unknown → host.files.present model.binding.modelPath = true)
    (lasting : model.Lasts outlook) (runContext : String) :
    Hands model tokenizer outlook
      (runBatch (model.source host runtime) batch fill fillFailure runContext)
      (fun bundle handed => model.Fits batch bundle ∧ ∃ buffers outputs,
        model.prepared batch write fillFailure = .ok (buffers, outputs) ∧
        handed = [model.named buffers])
      (fun error _ => Untokenized error ∧
        (outlook = .unknown ∨ ∃ cause, model.prepared batch write fillFailure = .error cause)) := by
  intro start ready
  rw [runBatch_eq]
  have prepared := prepare_hands writes keeps runtime positive shaped filling usable ready
  refine Attains.bind (prepared.weaken (fun _ _ reached => reached) ?_) (fun bundle => ?_) start rfl
  · intro error after reached
    obtain ⟨⟨handed, given⟩, why⟩ := reached
    exact ⟨handed, given, why⟩
  intro middle reached
  obtain ⟨stored, planned, given⟩ := reached
  have fits := stored.fits
  have succeeds (known : outlook ≠ .unknown) : middle.engine.nextAnswer .run = .success :=
    (model.met_steady outlook).answers stored.ready.guarded.vouched.1 known .run
  have kept : Attains (Stored model tokenizer outlook batch bundle) (runStored bundle runContext)
      _ _ := runStored_kept bundle runContext lasting
  refine (kept.both (runStored_hands fits runContext middle)).weaken ?_ ?_ middle ⟨stored, rfl⟩
  · intro changed after reached
    obtain ⟨⟨storedLast, -⟩, givenToo⟩ := reached
    exact ⟨storedLast.ready, _, given.trans givenToo, storedLast.fits, _, _, planned, rfl⟩
  · intro error after reached
    obtain ⟨-, ⟨handed, givenToo⟩, ⟨failure, rfl⟩, unanswered⟩ := reached
    refine ⟨_, given.trans givenToo, nofun, .inl ?_⟩
    exact Classical.byContradiction fun known => unanswered (succeeds known)

end Batches

end EmbedAction

namespace SparseEmbedder

variable {embedder : SparseEmbedder} {tokenizer : Tokenizer} {outlook : Outlook} {host : Host}
variable {compute : NamedBuffers → Nat → Float32} {windows : List Window} {document : String}
variable {documents before after : List String} {fault : TokenizerError}

/-- The buffers that a document is run on: those of a new session for as many rows as it has
windows, filled with the windows.  Or the error that keeps it from being run. -/
def windowBuffers (embedder : SparseEmbedder) (tokenizer : Tokenizer) (document : String) :
    Except EmbeddingError NamedBuffers := do
  let model := embedder.boundModel fun _ _ => Binary32.zero
  let windows ← embedder.windowsFor tokenizer document
  let (tokens, _) ← model.opened windows.length
  let blank := TokenBuffers.blank embedder.binding.usesTokenTypes tokens
  return model.named (blank.fillWindows embedder.binding.sequenceLength windows).2

theorem encoded_of_windowBuffers {buffers : NamedBuffers}
    (run : embedder.windowBuffers tokenizer document = .ok buffers) :
    ∃ encoding, tokenizer.encode document = .ok encoding := by
  obtain ⟨windows, cut, -⟩ := ok_of_bind run
  obtain ⟨encoding, encoded, -⟩ := ok_of_bind cut
  exact ⟨encoding, ok_of_mapError encoded⟩

/-- Windows that were cut can be filled in wherever a session can be opened for them. -/
theorem windowBuffers_eq (compute : NamedBuffers → Nat → Float32)
    (cut : embedder.windowsFor tokenizer document = .ok windows)
    (fillFailure : EmbeddingError → EmbeddingError) :
    embedder.windowBuffers tokenizer document =
      ((embedder.boundModel compute).prepared windows.length (writeWindows windows.length
        (embedder.boundModel compute).binding.sequenceLength windows) fillFailure).map
          fun prepared => (embedder.boundModel compute).named prepared.1 := by
  obtain ⟨some, fit⟩ := windowsFor_fits cut
  have opens : (embedder.boundModel fun _ _ => Binary32.zero).opened windows.length =
      (embedder.boundModel compute).opened windows.length := rfl
  simp only [windowBuffers, cut, BoundModel.prepared, opens, bind, Except.bind]
  cases opened : (embedder.boundModel compute).opened windows.length with
  | error error => rfl
  | ok sizes =>
      obtain ⟨tokens, outputs⟩ := sizes
      have sized : (embedder.boundModel compute).sizes windows.length = .ok (tokens, outputs) := by
        rw [BoundModel.opened] at opened
        split at opened
        · cases opened
        · exact opened
      have filled : (writeWindows windows.length
          (embedder.boundModel compute).binding.sequenceLength windows (.blank
            (embedder.boundModel compute).binding.usesTokenTypes tokens)).1 = .ok () :=
        writeWindows_filled some fit (BoundModel.elementCount_of_sizes sized)
      simp only [filled]
      simp only [writeWindows, if_pos]
      rfl

/-- An error that no tokenizer is the cause of.  Where all calls succeed, one of the documents
cannot be run. -/
structure Stuck (embedder : SparseEmbedder) (tokenizer : Tokenizer) (outlook : Outlook)
    (documents : List String) (error : EmbeddingError) : Prop where
  untokenized : Untokenized error
  reason : outlook = .unknown ∨
    ∃ document ∈ documents, ∃ cause, embedder.windowBuffers tokenizer document = .error cause

theorem Stuck.mono {error : EmbeddingError}
    (stuck : embedder.Stuck tokenizer outlook before error) (among : before ⊆ documents) :
    embedder.Stuck tokenizer outlook documents error := by
  refine ⟨stuck.untokenized, stuck.reason.imp_right fun unrun => ?_⟩
  obtain ⟨document, member, refused⟩ := unrun
  exact ⟨document, among member, refused⟩

theorem fillWindows_error {bundle : BatchSession} {error : EmbeddingError}
    (failed : (bundle.fillWindows windows).1 = .error error) :
    ∃ fault, error = .invalidInput fault := by
  unfold BatchSession.fillWindows at failed
  split at failed
  · cases failed
    exact ⟨_, rfl⟩
  · obtain ⟨fault, -, rfl⟩ := error_of_mapError failed
    exact ⟨fault, rfl⟩

/-- A document that its tokenizer encodes is run once, on its own windows, unless something else
goes wrong.  Where all calls succeed, that is a matter of the document alone. -/
theorem embedWindows_hands (usable : embedder.Usable) (runtime : Runtime) (position : Nat)
    (document : String)
    (present : outlook ≠ .unknown → host.files.present embedder.binding.modelPath = true)
    (lasting : (embedder.boundModel compute).Lasts outlook) :
    Hands (embedder.boundModel compute) tokenizer outlook
      (embedder.embedWindows (embedder.source host runtime) tokenizer position document)
      (fun _ handed => ∃ buffers, embedder.windowBuffers tokenizer document = .ok buffers ∧
        handed = [buffers])
      (fun error handed =>
        (∃ fault, tokenizer.encode document = .error fault ∧ handed = [] ∧
          error = .context s!"failed to tokenize sliding windows for document {position}"
            (.tokenizer fault)) ∨
        ((∃ encoding, tokenizer.encode document = .ok encoding) ∧
          embedder.Stuck tokenizer outlook [document] error)) := by
  apply Hands.afterStep (windowsOf_apart embedder tokenizer document)
  apply Hands.afterApart (.ofExcept _)
  · intro windows found
    have cut := ok_of_mapError found
    obtain ⟨some, -⟩ := windowsFor_fits cut
    have someRows := List.length_pos_of_ne_nil some
    apply Hands.afterStep (.ofNote _ _)
    have filling : ∀ bundle error, (BatchSession.fillWindows bundle windows).1 = .error error →
        Untokenized (.context s!"failed to prepare sliding window tensors for document {position}"
          error) := by
      intro bundle error failed
      obtain ⟨fault, rfl⟩ := fillWindows_error failed
      exact nofun
    have writes := fillWindows_writes windows.length
      (embedder.boundModel compute).binding.sequenceLength windows
    have asked := windowBuffers_eq compute cut
      (.context s!"failed to prepare sliding window tensors for document {position}")
    obtain ⟨encoding, encoded, -⟩ := ok_of_bind cut
    apply (runBatch_hands writes (BatchSession.fillWindows_keeps windows) runtime
      (Nat.ne_of_gt someRows) nofun filling present lasting runContext).bind
    · intro bundle handed reached
      obtain ⟨fits, buffers, outputs, prepared, rfl⟩ := reached
      rw [prepared] at asked
      obtain ⟨vectors, reduced, -, valid⟩ := sparsify_fits usable someRows fits
        { embedder.params with threshold := Binary32.zero, topK := 0 } rfl Binary32.zero_le_zero
      obtain ⟨merged, joined, -⟩ :=
        Sparse.mergeWindows_valid usable.threshold valid embedder.params.topK
      dsimp only
      rw [reduced]
      apply Hands.afterApart (.ofExcept _)
      · intro perWindow found
        cases found
        rw [joined]
        exact .ofPure ⟨_, asked, rfl⟩
      · intro error failed
        cases failed
    · intro error handed reached
      obtain ⟨other, why⟩ := reached
      refine .inr ⟨⟨encoding, ok_of_mapError encoded⟩, other, why.imp_right fun refused => ?_⟩
      obtain ⟨cause, refused⟩ := refused
      rw [refused] at asked
      exact ⟨document, List.mem_singleton_self document, cause, asked⟩
  · intro error failed
    obtain ⟨cause, uncut, rfl⟩ := error_of_mapError failed
    have refused : embedder.windowBuffers tokenizer document = .error cause := by
      rw [windowBuffers, uncut]
      rfl
    rcases error_of_bind uncut with unread | ⟨encoding, encoded, unfit⟩
    · obtain ⟨fault, unreadable, rfl⟩ := error_of_mapError unread
      exact .inl ⟨fault, unreadable, rfl, rfl⟩
    · obtain ⟨fault, -, rfl⟩ := error_of_mapError unfit
      exact .inr ⟨⟨encoding, ok_of_mapError encoded⟩, nofun,
        .inr ⟨document, List.mem_singleton_self document, _, refused⟩⟩

/-- Documents before one that the tokenizer refuses are run, each of them once and no other, unless
something else goes wrong with them. -/
theorem embedSliding_refused (usable : embedder.Usable) (runtime : Runtime)
    (present : outlook ≠ .unknown → host.files.present embedder.binding.modelPath = true)
    (lasting : (embedder.boundModel compute).Lasts outlook)
    (encoded : ∀ earlier ∈ before, ∃ encoding, tokenizer.encode earlier = .ok encoding)
    (refused : tokenizer.encode document = .error fault) (position : Nat) :
    Hands (embedder.boundModel compute) tokenizer outlook
      (embedder.embedSliding (embedder.source host runtime) tokenizer position
        (before ++ document :: after))
      (fun _ _ => False)
      (fun error handed =>
        (before.mapM (embedder.windowBuffers tokenizer) = .ok handed ∧
          error = .context
            s!"failed to tokenize sliding windows for document {position + before.length}"
            (.tokenizer fault)) ∨
        embedder.Stuck tokenizer outlook before error) := by
  induction before generalizing position with
  | nil =>
      apply (embedWindows_hands usable runtime position document present lasting).bind
      · intro vector handed reached
        obtain ⟨buffers, run, -⟩ := reached
        obtain ⟨encoding, found⟩ := encoded_of_windowBuffers run
        cases refused.symm.trans found
      · intro error handed reached
        rcases reached with ⟨other, failed, rfl, rfl⟩ | ⟨⟨encoding, found⟩, -⟩
        · cases refused.symm.trans failed
          exact .inl ⟨rfl, rfl⟩
        · cases refused.symm.trans found
  | cons first rest ih =>
      obtain ⟨⟨encoding, found⟩, encodedRest⟩ := List.forall_mem_cons.mp encoded
      apply (embedWindows_hands usable runtime position first present lasting).bind
      · intro vector handed reached
        obtain ⟨buffers, run, rfl⟩ := reached
        apply (ih encodedRest (position + 1)).bind
        · intro vectors further impossible
          exact impossible.elim
        · intro error further reached
          rcases reached with ⟨ran, rfl⟩ | stuck
          · left
            constructor
            · rw [List.mapM_cons, run, ran]
              rfl
            · rw [List.length_cons, Nat.add_assoc, Nat.add_comm 1]
          · exact .inr (stuck.mono (List.subset_cons_self first rest))
      · intro error handed reached
        rcases reached with ⟨fault, failed, -⟩ | ⟨-, stuck⟩
        · cases found.symm.trans failed
        · exact .inr (stuck.mono (List.cons_subset_cons first (List.nil_subset rest)))

end SparseEmbedder

end TextVectors

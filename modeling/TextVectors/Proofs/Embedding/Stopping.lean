import TextVectors.Embedding.Run
import TextVectors.Proofs.Cache.Custody
import TextVectors.Proofs.Embedding.Checks
import TextVectors.Proofs.Native.Cleanup

namespace TextVectors

/-! A failed call stops what an embedder does.

Embedders keep all objects that they make in their cached batch sessions.  When a call fails, no
other batch is run: the objects of a session that did not come into being are released, and the
session whose run failed stays in the cache as the last one used.
-/

open Inference History

variable {α β : Type}

namespace SessionCache

variable {sessions rest : SessionCache BatchSession} {batch : Nat} {bundle changed : BatchSession}

/-- What the cached batch sessions hold. -/
def held (sessions : SessionCache BatchSession) : List Handle :=
  sessions.entries.flatMap fun entry => entry.2.held

/-- Every batch session is cached under the batch size that it was made for. -/
structure Matched (sessions : SessionCache BatchSession) : Prop where
  consistent : sessions.Consistent
  batches : ∀ entry ∈ sessions.entries, entry.2.batch = entry.1

theorem held_insert (sessions : SessionCache BatchSession) (batch : Nat) (bundle : BatchSession) :
    ((sessions.insert batch bundle).touch batch).held = sessions.held ++ bundle.held := by
  simp [held, insert, touch]

theorem held_update (nodup : sessions.keys.Nodup) (found : sessions.find? batch = some bundle)
    (same : changed.held = bundle.held) : (sessions.update batch changed).held = sessions.held := by
  simp only [held, update, List.flatMap_map]
  apply List.flatMap_congr
  intro entry member
  split
  · rename_i equal
    have stored : sessions.find? entry.1 = some entry.2 := lookup_eq_some_of_mem nodup member
    rw [equal, found] at stored
    cases stored
    exact same
  · rfl

theorem held_without (nodup : sessions.keys.Nodup) (found : sessions.find? batch = some bundle) :
    sessions.held ⊆ bundle.held ++ (sessions.without batch).held := by
  have parts := (entries_perm nodup found).flatMap_right fun entry => entry.2.held
  exact parts.subset

namespace Matched

theorem touch (matched : sessions.Matched) (member : batch ∈ sessions.keys) :
    (sessions.touch batch).Matched :=
  ⟨matched.consistent.touch member, matched.batches⟩

theorem without (matched : sessions.Matched) (batch : Nat) : (sessions.without batch).Matched :=
  ⟨matched.consistent.without batch, fun entry member =>
    matched.batches entry (mem_entries_of_without member)⟩

theorem insert_touch (matched : sessions.Matched) (absent : batch ∉ sessions.keys)
    (nonzero : batch ≠ 0) (room : sessions.size < sessions.capacity)
    (same : bundle.batch = batch) : ((sessions.insert batch bundle).touch batch).Matched where
  consistent := matched.consistent.insert_touch absent nonzero room bundle
  batches entry member := by
    rcases List.mem_append.mp member with former | last
    · exact matched.batches entry former
    · rw [List.mem_singleton.mp last]
      exact same

theorem update (matched : sessions.Matched) (same : changed.batch = batch) :
    (sessions.update batch changed).Matched where
  consistent := matched.consistent.update batch changed
  batches entry member := by
    obtain ⟨former, listed, placed⟩ := List.mem_map.mp member
    split at placed
    · rw [← placed]
      exact same
    · rw [← placed]
      exact matched.batches former listed

end Matched

variable {source : EmbedAction.Source} {engine : Engine}

/-- The entry that makes room releases what it holds. -/
theorem makeRoom_ends (matched : sessions.Matched) (source : EmbedAction.Source)
    (engine : Engine) :
    ∃ rest after newer, sessions.makeRoom source.actions engine = ((.ok (), rest), after) ∧
      rest.Matched ∧ rest.size < rest.capacity ∧ rest.keys ⊆ sessions.keys ∧
      Stretch sessions.held rest.held engine after newer ∧ newer.Smooth ∧
      newer.callCount .run = 0 := by
  have bounded := matched.consistent.bounded
  have roomy := matched.consistent.roomy
  unfold makeRoom
  by_cases full : sessions.size ≥ sessions.capacity
  · obtain ⟨oldest, order, bundle, ordered, found⟩ :=
      matched.consistent.oldest_exists (by omega)
    have nodup := matched.consistent.keysNodup
    rw [if_pos full, Custody.evictOldest_eq source.actions matched.consistent ordered found]
    obtain ⟨handles, history, behaviour, among⟩ := bundle.dispose_frees
      ((note .debug s!"Evicting session for batch size {oldest}" : Step Unit) engine).2
    refine ⟨_, _, releases handles, rfl, matched.without oldest, ?_, ?_,
      .freed history behaviour ?_, .releases handles, runs_releases handles⟩
    · have fewer := size_without nodup found
      exact Nat.lt_of_lt_of_le (by omega) bounded
    · rw [keys_without]
      exact fun _ member => List.mem_of_mem_filter member
    · exact List.Subset.trans (held_without nodup found) (List.append_subset.mpr
        ⟨List.subset_append_of_subset_left _ among, List.subset_append_right _ _⟩)
  · rw [if_neg full]
    exact ⟨sessions, engine, [], rfl, matched, by omega, List.Subset.refl _, .still rfl rfl, .none,
      rfl⟩

theorem batch_of_created {after : Engine}
    (created : source.create batch engine = .ok bundle after) : bundle.batch = batch :=
  (BoundModel.fits_of_created ⟨source.binding, source.outputShape, fun _ _ => Binary32.zero⟩
    created).formed.batch

theorem source_course (source : EmbedAction.Source) (batch : Nat) :
    Course EmbeddingError.root [] (source.create batch) BatchSession.held :=
  .bind (.ofExcept _) fun shape => BatchSession.create_course _ _ _ batch shape

/-- How acquiring a batch session ends: with one that is in the cache, the last one used, or with
none under that batch size. -/
structure Acquired (sessions : SessionCache BatchSession) (batch : Nat) (engine : Engine)
    (result : Except EmbeddingError BatchSession) (rest : SessionCache BatchSession)
    (after : Engine) (newer : History) : Prop where
  matched : rest.Matched
  stretch : Stretch sessions.held rest.held engine after newer
  idle : newer.callCount .run = 0
  found : ∀ bundle, result = .ok bundle →
    newer.Smooth ∧ rest.find? batch = some bundle ∧ rest.order.getLast? = some batch
  failed : ∀ error, result = .error error →
    Surfaced engine newer error.root ∧ batch ∉ rest.keys

theorem add_ends {result : Except EmbeddingError BatchSession} {after : Engine}
    (matched : sessions.Matched) (absent : batch ∉ sessions.keys) (nonzero : batch ≠ 0)
    (ran : sessions.add source.actions batch engine = ((result, rest), after)) :
    ∃ newer, Acquired sessions batch engine result rest after newer := by
  obtain ⟨spare, middle, newer, roomed, matchedSpare, room, fewer, stretch, smooth, idle⟩ :=
    makeRoom_ends matched source engine
  have absentSpare : batch ∉ spare.keys := fun member => absent (fewer member)
  obtain ⟨further, idleToo, reached⟩ := source_course source batch middle
  have idleBoth : (further ++ newer).callCount .run = 0 := by
    rw [callCount_append, idleToo, idle]
  have made : source.actions.create batch = attempt (source.create batch) := rfl
  simp only [add, bind_apply, roomed, made, attempt] at ran
  refine ⟨further ++ newer, ?_⟩
  cases ended : source.create batch middle with
  | error error last =>
      rw [ended] at ran reached
      cases ran
      obtain ⟨released, surfaced⟩ := reached
      constructor
      case matched => exact matchedSpare
      case stretch => exact stretch.trans (released.beside rest.held)
      case idle => exact idleBoth
      case found => rintro other ⟨⟩
      case failed =>
        rintro other ⟨⟩
        exact ⟨surfaced.after smooth stretch.history stretch.behaviour, absentSpare⟩
  | ok bundle last =>
      rw [ended] at ran reached
      cases ran
      obtain ⟨held, smoothToo⟩ := reached
      constructor
      case matched =>
        exact matchedSpare.insert_touch absentSpare nonzero room (batch_of_created ended)
      case stretch =>
        have kept := stretch.trans (held.beside spare.held)
        refine (kept.more ?_).apart rfl rfl
        rw [held_insert]
        exact (List.perm_append_comm).subset
      case idle => exact idleBoth
      case found =>
        rintro other ⟨⟩
        exact ⟨smoothToo.append smooth, find?_insert absentSpare bundle, touch_last _ batch⟩
      case failed => rintro other ⟨⟩

theorem acquire_ends {result : Except EmbeddingError BatchSession} {after : Engine}
    (matched : sessions.Matched)
    (ran : sessions.acquire source.actions batch engine = ((result, rest), after)) :
    ∃ newer, Acquired sessions batch engine result rest after newer := by
  unfold acquire at ran
  by_cases zero : batch = 0
  · rw [if_pos zero] at ran
    cases ran
    refine ⟨[], matched, .still rfl rfl, rfl, by rintro other ⟨⟩, ?_⟩
    rintro other ⟨⟩
    exact ⟨.inl .none, zero ▸ matched.consistent.positive⟩
  · rw [if_neg zero] at ran
    cases found : sessions.find? batch with
    | some bundle =>
        rw [found] at ran
        cases ran
        have member := mem_keys_of_entry (mem_entries_of_find? found)
        refine ⟨[], matched.touch member, .still rfl rfl, rfl, ?_, by rintro other ⟨⟩⟩
        rintro other ⟨⟩
        exact ⟨.none, found, touch_last sessions batch⟩
    | none =>
        rw [found] at ran
        exact add_ends matched (find?_eq_none.mp found) zero ran

end SessionCache

namespace BatchSession

variable (bundle : BatchSession)

/-- New contents of the token buffers change nothing of what is held. -/
theorem held_setBuffers (buffers : TokenBuffers) :
    (bundle.setBuffers buffers).held = bundle.held := by
  unfold setBuffers held
  cases bundle.types <;> cases buffers.types <;> rfl

/-- Filling a batch session changes neither its size nor what it holds. -/
def Keeps (fill : BatchSession → Except EmbeddingError Unit × BatchSession) : Prop :=
  ∀ bundle, (fill bundle).2.batch = bundle.batch ∧ (fill bundle).2.held = bundle.held

theorem fillEncodings_keeps (encodings : List Encoding) :
    Keeps fun bundle => bundle.fillEncodings encodings := by
  intro bundle
  simp only [fillEncodings]
  split
  · exact ⟨rfl, rfl⟩
  · exact ⟨rfl, bundle.held_setBuffers _⟩

theorem fillWindows_keeps (windows : List Window) :
    Keeps fun bundle => bundle.fillWindows windows := by
  intro bundle
  simp only [fillWindows]
  split
  · exact ⟨rfl, rfl⟩
  · exact ⟨rfl, bundle.held_setBuffers _⟩

end BatchSession

namespace EmbedAction

/-- A stretch of events between two states, the cache of both in order. -/
structure Passage (before after : EmbedState) (newer : History) : Prop where
  matched : after.sessions.Matched
  stretch : Stretch before.sessions.held after.sessions.held before.engine after.engine newer

/-- What a failed call leaves of the batch that it was made for.  After a run the session is cached,
as the last one used.  Otherwise it did not come into being. -/
structure Left (call : Call) (batch : Nat) (sessions : SessionCache BatchSession) : Prop where
  kept : call.function = .run →
    sessions.contains batch = true ∧ sessions.batchSizes.getLast? = some batch
  gone : call.function ≠ .run → sessions.contains batch = false

/-- A failed call stops the batches that were to be run: as many of them were run as the library
was asked to run before, and the failure is the one that the error goes back to. -/
def Interrupted (sizes : List Nat) (before after : EmbedState) (newer : History)
    (error : EmbeddingError) : Prop :=
  ∃ earlier call cause batch, Stopped before.engine earlier call cause newer ∧
    error.root = some cause ∧ sizes[earlier.callCount .run]? = some batch ∧
    Left call batch after.sessions

/-- An action that runs batches of these sizes one after the other.  It runs all of them, unless a
call fails, or something else than a call. -/
def Serves (sizes : List Nat) (action : EmbedAction α) (good : α → Prop) : Prop :=
  ∀ before : EmbedState, before.sessions.Matched → Attains (· = before) action
    (fun value after => ∃ newer, Passage before after newer ∧ newer.Smooth ∧
      newer.callCount .run = sizes.length ∧ good value)
    (fun error after => ∃ newer, Passage before after newer ∧
      (newer.Smooth ∨ Interrupted sizes before after newer error))

section Passages

variable {before middle last : EmbedState} {newer further : History} {sizes others : List Nat}
variable {error : EmbeddingError}

theorem Passage.trans (first : Passage before middle newer)
    (second : Passage middle last further) : Passage before last (further ++ newer) :=
  ⟨second.matched, first.stretch.trans second.stretch⟩

/-- What happens beside the library and the cache does not count. -/
theorem Passage.still (matched : before.sessions.Matched)
    (sessions : last.sessions = before.sessions)
    (history : last.engine.history = before.engine.history)
    (behaviour : last.engine.behaviour = before.engine.behaviour) : Passage before last [] :=
  ⟨sessions ▸ matched, by rw [sessions]; exact .still history behaviour⟩

theorem Interrupted.followed (stopped : Interrupted sizes before last newer error)
    (others : List Nat) : Interrupted (sizes ++ others) before last newer error := by
  obtain ⟨earlier, call, cause, batch, stops, rooted, reached, left⟩ := stopped
  have inside := (List.getElem?_eq_some_iff.mp reached).1
  exact ⟨earlier, call, cause, batch, stops, rooted, by rwa [List.getElem?_append_left inside],
    left⟩

theorem Interrupted.after (stopped : Interrupted others middle last further error)
    (first : Passage before middle newer) (smooth : newer.Smooth)
    (ran : newer.callCount .run = sizes.length) :
    Interrupted (sizes ++ others) before last (further ++ newer) error := by
  obtain ⟨earlier, call, cause, batch, stops, rooted, reached, left⟩ := stopped
  refine ⟨_, call, cause, batch,
    stops.after smooth first.stretch.history first.stretch.behaviour, rooted, ?_, left⟩
  rw [callCount_append, ran, List.getElem?_append_right (Nat.le_add_left _ _),
    Nat.add_sub_cancel]
  exact reached

end Passages

namespace Serves

variable {sizes others : List Nat} {action : EmbedAction α} {next : α → EmbedAction β}
variable {good better : α → Prop} {goodLast : β → Prop}

theorem ofPure {value : α} (holds : good value) : Serves [] (pure value : EmbedAction α) good := by
  rintro _ matched _ rfl
  exact ⟨[], .still matched rfl rfl rfl, .none, rfl, holds⟩

theorem ofThrow (error : EmbeddingError) : Serves sizes (throw error : EmbedAction α) good := by
  rintro _ matched _ rfl
  exact ⟨[], .still matched rfl rfl rfl, .inl .none⟩

theorem bind (first : Serves sizes action good)
    (rest : ∀ value, good value → Serves others (next value) goodLast) :
    Serves (sizes ++ others) (action >>= next) goodLast := by
  intro before matched
  refine Attains.bind ((first before matched).weaken (fun _ _ reached => reached) ?_) ?_
  · rintro error after ⟨newer, passage, smooth | stopped⟩
    · exact ⟨newer, passage, .inl smooth⟩
    · exact ⟨newer, passage, .inr (stopped.followed others)⟩
  · rintro value middle ⟨newer, passage, smooth, ran, holds⟩
    refine (rest value holds middle passage.matched).weaken ?_ ?_ middle rfl
    · rintro last after ⟨further, passageLast, smoothLast, ranLast, holdsLast⟩
      refine ⟨further ++ newer, passage.trans passageLast, smoothLast.append smooth, ?_, holdsLast⟩
      rw [callCount_append, ranLast, ran, List.length_append, Nat.add_comm]
    · rintro error after ⟨further, passageLast, smoothLast | stopped⟩
      · exact ⟨_, passage.trans passageLast, .inl (smoothLast.append smooth)⟩
      · exact ⟨_, passage.trans passageLast, .inr (stopped.after passage smooth ran)⟩

/-- What comes first runs no batch. -/
theorem bindFirst (first : Serves [] action good)
    (rest : ∀ value, good value → Serves sizes (next value) goodLast) :
    Serves sizes (action >>= next) goodLast :=
  first.bind rest

/-- What comes last runs no batch. -/
theorem bindLast (first : Serves sizes action good)
    (rest : ∀ value, good value → Serves [] (next value) goodLast) :
    Serves sizes (action >>= next) goodLast := by
  have both := first.bind rest
  rwa [List.append_nil] at both

theorem weaken (serves : Serves sizes action good) (implied : ∀ value, good value → better value) :
    Serves sizes action better := by
  intro before matched
  refine (serves before matched).weaken ?_ fun _ _ reached => reached
  rintro value after ⟨newer, passage, smooth, ran, holds⟩
  exact ⟨newer, passage, smooth, ran, implied value holds⟩

theorem ofApart {action : Action EmbeddingError α} {result : Except EmbeddingError α}
    (apart : Apart action result) :
    Serves [] (ofAction action) fun value => result = .ok value := by
  rintro _ matched state rfl
  obtain ⟨after, history, behaviour, ended⟩ := apart state.engine
  unfold ofAction
  rw [ended]
  cases result with
  | ok value => exact ⟨[], .still matched rfl history behaviour, .none, rfl, rfl⟩
  | error error => exact ⟨[], .still matched rfl history behaviour, .inl .none⟩

theorem ofExcept (result : Except EmbeddingError α) :
    Serves [] (EmbedAction.ofExcept result) fun value => result = .ok value :=
  .ofApart (.ofExcept result)

theorem bindStep {step : Step α} {value : α} {next : α → EmbedAction β}
    (apart : Apart (liftM step : Action EmbeddingError α) (.ok value))
    (rest : Serves sizes (next value) goodLast) : Serves sizes (ofStep step >>= next) goodLast :=
  bindFirst (ofApart apart : Serves [] (ofStep step) _) fun found same => by
    cases same
    exact rest

theorem ofGet : Serves [] (get : EmbedAction EmbedState) fun _ => True := by
  rintro _ matched _ rfl
  exact ⟨[], .still matched rfl rfl rfl, .none, rfl, trivial⟩

/-- Remembering labels concerns neither the library nor the cache. -/
theorem ofRemember (remember : List (Nat × String) → List (Nat × String)) :
    Serves [] (modify fun state => { state with labels := remember state.labels } :
      EmbedAction Unit) fun _ => True := by
  rintro _ matched _ rfl
  exact ⟨[], .still matched rfl rfl rfl, .none, rfl, trivial⟩

theorem mapM {operation : α → EmbedAction β}
    (each : ∀ value, Serves [] (operation value) fun _ => True) (values : List α) :
    Serves [] (values.mapM operation) fun _ => True := by
  induction values with
  | nil => exact .ofPure trivial
  | cons value rest ih =>
      rw [List.mapM_cons]
      exact (each value).bind fun _ _ => ih.bind fun _ _ => .ofPure trivial

end Serves

/-- The session of a batch on its way: it is cached, as the last one used. -/
structure Underway (batch : Nat) (bundle : BatchSession) (runs : Nat) (before after : EmbedState)
    (newer : History) : Prop where
  passage : Passage before after newer
  smooth : newer.Smooth
  ran : newer.callCount .run = runs
  found : after.sessions.find? batch = some bundle
  last : after.sessions.order.getLast? = some batch

section Batches

variable {source : Source} {batch runs : Nat} {bundle changed : BatchSession}
variable {before after : EmbedState} {newer : History}

/-- A batch session that is put back holds what it held. -/
theorem Passage.store (passage : Passage before after newer)
    (found : after.sessions.find? batch = some bundle) (batchSame : changed.batch = bundle.batch)
    (heldSame : changed.held = bundle.held) :
    let last : EmbedState :=
      { after with sessions := after.sessions.update changed.batch changed }
    Passage before last newer ∧ last.sessions.find? batch = some changed := by
  have matched := passage.matched
  have entry := SessionCache.mem_entries_of_find? found
  have same : changed.batch = batch := batchSame.trans (matched.batches _ entry)
  rw [same]
  refine ⟨⟨matched.update same, ?_⟩,
    SessionCache.find?_update (SessionCache.mem_keys_of_entry entry) changed⟩
  rw [SessionCache.held_update matched.consistent.keysNodup found heldSame]
  exact passage.stretch

theorem Underway.store (underway : Underway batch bundle runs before after newer)
    (batchSame : changed.batch = bundle.batch) (heldSame : changed.held = bundle.held) :
    Underway batch changed runs before
      { after with sessions := after.sessions.update changed.batch changed } newer := by
  obtain ⟨passage, found⟩ := underway.passage.store underway.found batchSame heldSame
  exact ⟨passage, underway.smooth, underway.ran, found, underway.last⟩

theorem acquire_serves (source : Source) (batch : Nat) (matched : before.sessions.Matched) :
    Attains (· = before) (acquire source batch)
      (fun bundle after => ∃ newer, Underway batch bundle 0 before after newer)
      (fun error after => ∃ newer, Passage before after newer ∧
        (newer.Smooth ∨ Interrupted [batch] before after newer error)) := by
  rintro state rfl
  unfold acquire
  cases ran : state.sessions.acquire source.actions batch state.engine with
  | mk outcome engine =>
      obtain ⟨result, sessions⟩ := outcome
      obtain ⟨newer, ended⟩ := SessionCache.acquire_ends matched ran
      cases result with
      | ok bundle =>
          obtain ⟨smooth, found, last⟩ := ended.found bundle rfl
          exact ⟨newer, ⟨ended.matched, ended.stretch⟩, smooth, ended.idle, found, last⟩
      | error error =>
          obtain ⟨surfaced, absent⟩ := ended.failed error rfl
          refine ⟨newer, ⟨ended.matched, ended.stretch⟩, ?_⟩
          rcases surfaced with smooth | ⟨earlier, call, cause, stopped, rooted⟩
          · exact .inl smooth
          · obtain ⟨none, running⟩ := stopped.idle ended.idle
            refine .inr ⟨earlier, call, cause, batch, stopped, rooted, by rw [none]; rfl,
              fun absurd => (running absurd).elim, fun _ => ?_⟩
            rw [SessionCache.contains, SessionCache.find?_eq_none.mpr absent]
            rfl

theorem prepare_serves {fill : BatchSession → Except EmbeddingError Unit × BatchSession}
    (keeps : BatchSession.Keeps fill) (source : Source) (batch : Nat)
    (fillFailure : EmbeddingError → EmbeddingError) (matched : before.sessions.Matched) :
    Attains (· = before) (prepare source batch fill fillFailure)
      (fun bundle after => ∃ newer, Underway batch bundle 0 before after newer)
      (fun error after => ∃ newer, Passage before after newer ∧
        (newer.Smooth ∨ Interrupted [batch] before after newer error)) := by
  refine Attains.bind (acquire_serves source batch matched) fun bundle => ?_
  rintro middle ⟨newer, underway⟩
  have filled := underway.store (keeps bundle).1 (keeps bundle).2
  change EndsIn _ _ (EStateM.bind (EmbedAction.ofExcept _) _ _)
  cases (fill bundle).1 with
  | ok _ => exact ⟨newer, filled⟩
  | error error => exact ⟨newer, filled.passage, .inl filled.smooth⟩

/-- The session of a batch stays cached, also when its run fails. -/
theorem runStored_serves (underway : Underway batch bundle 0 before after newer)
    (runContext : String) :
    Attains (· = after) (runStored bundle runContext)
      (fun changed last => ∃ further, Underway batch changed 1 before last further)
      (fun error last => ∃ further, Passage before last further ∧
        (further.Smooth ∨ Interrupted [batch] before last further error)) := by
  have passage := underway.passage
  rintro state rfl
  have reached := bundle.run_ends state.engine state.engine rfl
  dsimp only at reached
  apply runStored_ends
  intro changed refilled
  constructor
  · intro well
    rw [well] at reached
    obtain ⟨call, running, recorded⟩ := reached
    rw [recorded]
    have ran : Underway batch bundle 1 before
        { state with engine := state.engine.recorded (.called call .done) }
        (.called call .done :: newer) := by
      constructor
      case passage => exact ⟨passage.matched, passage.stretch.trans (.done call)⟩
      case smooth => exact (smooth_of_outcome (by rintro status ⟨⟩)).append underway.smooth
      case ran =>
        rw [callCount, List.countP_cons_of_pos (by simpa [Event.function?] using running)]
        exact congrArg (· + 1) underway.ran
      case found => exact underway.found
      case last => exact underway.last
    exact ⟨_, ran.store refilled.batch refilled.held⟩
  · intro error failed
    rw [failed] at reached
    rcases reached with same | ⟨call, further, running, stretch, stopped⟩
    · rw [same]
      have stored := underway.store refilled.batch refilled.held
      exact ⟨newer, stored.passage, .inl stored.smooth⟩
    · have ran : Passage before { state with engine := (bundle.run state.engine).2 }
          (further ++ newer) :=
        ⟨passage.matched, passage.stretch.trans (stretch.beside state.sessions.held)⟩
      obtain ⟨stored, found⟩ := ran.store underway.found refilled.batch refilled.held
      refine ⟨further ++ newer, stored, .inr ⟨newer, call, error, batch,
        stopped.after underway.smooth passage.stretch.history passage.stretch.behaviour, rfl,
        by rw [underway.ran]; rfl, fun _ => ⟨?_, underway.last⟩,
        fun other => (other running).elim⟩⟩
      rw [SessionCache.contains]
      exact Option.isSome_iff_exists.mpr ⟨changed, found⟩

/-- Running a batch is all that is asked of the library once its session is there. -/
theorem runBatch_serves {fill : BatchSession → Except EmbeddingError Unit × BatchSession}
    (keeps : BatchSession.Keeps fill) (source : Source) (batch : Nat)
    (fillFailure : EmbeddingError → EmbeddingError) (runContext : String) :
    Serves [batch] (runBatch source batch fill fillFailure runContext) fun _ => True := by
  rw [runBatch_eq]
  intro before matched
  refine Attains.bind (prepare_serves keeps source batch fillFailure matched) fun bundle => ?_
  rintro middle ⟨newer, underway⟩
  refine (runStored_serves underway runContext).weaken ?_ (fun _ _ reached => reached) middle rfl
  rintro changed last ⟨further, stored⟩
  exact ⟨further, stored.passage, stored.smooth, stored.ran, trivial⟩

end Batches

end EmbedAction

end TextVectors

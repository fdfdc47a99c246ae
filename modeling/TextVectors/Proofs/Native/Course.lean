import TextVectors.Embedding.BatchSession
import TextVectors.Proofs.Native.Request

namespace TextVectors

/-! The course of an operation, as the library sees it.

Of what an operation is given and of what it makes, it hands on a part and releases the rest.  A
call that fails is the last one that it makes: the status is read and released, what was made is
released, and the failure is the error of the operation.
-/

open Inference

variable {ε ε' α β : Type}

namespace Inference.History

variable {newer older : History} {handles : List Handle}

@[simp] theorem created_append (newer older : History) :
    History.created (newer ++ older) = newer.created ++ older.created :=
  List.filterMap_append

@[simp] theorem released_append (newer older : History) :
    History.released (newer ++ older) = newer.released ++ older.released :=
  List.filterMap_append

@[simp] theorem callCount_append (newer older : History) (function : NativeFunction) :
    History.callCount (newer ++ older) function =
      newer.callCount function + older.callCount function :=
  List.countP_append

/-- Objects released one after the other, the last one first. -/
def releases (handles : List Handle) : History :=
  handles.map .released

@[simp] theorem created_releases (handles : List Handle) : (releases handles).created = [] := by
  simp [releases, created, Event.created?]

@[simp] theorem released_releases (handles : List Handle) :
    (releases handles).released = handles := by
  rw [releases, released, List.filterMap_map]
  exact List.filterMap_some

@[simp] theorem runs_releases (handles : List Handle) : (releases handles).callCount .run = 0 := by
  simp only [releases, callCount, List.countP_map, List.countP_eq_zero, Function.comp_apply,
    Event.function?]
  intro handle _
  cases handle.kind <;> decide

/-- A failed call and what it leaves behind, newest first: its status is read and released. -/
def failing (call : Call) (status : Handle) : History :=
  [.released status, .readMessage status, .readCode status, .called call (.failed status)]

theorem runs_failing {call : Call} (idle : call.function ≠ .run) (status : Handle) :
    (failing call status).callCount .run = 0 := by
  have parts : failing call status = releases [status] ++
      [.readMessage status, .readCode status, .called call (.failed status)] := rfl
  rw [parts, callCount_append, runs_releases]
  simpa [callCount, Event.function?] using idle

/-- No call failed. -/
def Smooth (newer : History) : Prop :=
  ∀ call status, Event.called call (.failed status) ∉ newer

theorem Smooth.none : Smooth [] :=
  fun _ _ => List.not_mem_nil

theorem Smooth.releases (handles : List Handle) : Smooth (releases handles) := by
  simp [Smooth, History.releases]

theorem Smooth.append (last : newer.Smooth) (first : older.Smooth) : Smooth (newer ++ older) := by
  intro call status member
  rcases List.mem_append.mp member with recent | early
  · exact last call status recent
  · exact first call status early

end Inference.History

open History

/-- A stretch of events.  What there was before and what came into being is handed on, or it was
released. -/
structure Stretch (given kept : List Handle) (before after : Engine) (newer : History) :
    Prop where
  history : after.history = newer ++ before.history
  behaviour : after.behaviour = before.behaviour
  kept : ∀ handle, handle ∈ given ∨ handle ∈ newer.created →
    handle ∈ kept ∨ handle ∈ newer.released

/-- A stretch that was stopped by a failed call, after which nothing but releases comes. -/
structure Stopped (before : Engine) (earlier : History) (call : Call) (cause : RuntimeError)
    (newer : History) : Prop where
  smooth : earlier.Smooth
  stops : ∃ status handles, newer = releases handles ++ failing call status ++ earlier
  answered : ∃ code text,
    ({ before with history := earlier ++ before.history } : Engine).nextAnswer call.function =
        .failure code text ∧
      cause = .native call.function.name (.ofInt code) (Text.ofTerminated text)

/-- An operation that failed either met no failed call, or was stopped by one and goes back to its
error. -/
def Surfaced (before : Engine) (newer : History) (cause : Option RuntimeError) : Prop :=
  newer.Smooth ∨ ∃ earlier call error,
    Stopped before earlier call error newer ∧ cause = some error

section Stretches

variable {given between kept : List Handle} {before middle last : Engine}
variable {newer further : History} {cause : Option RuntimeError}

theorem Stretch.trans (first : Stretch given between before middle newer)
    (second : Stretch between kept middle last further) :
    Stretch given kept before last (further ++ newer) where
  history := by
    rw [second.history, first.history, List.append_assoc]
  behaviour := second.behaviour.trans first.behaviour
  kept handle member := by
    rw [created_append, List.mem_append] at member
    rw [released_append, List.mem_append]
    have early (known : handle ∈ given ∨ handle ∈ newer.created) :
        handle ∈ kept ∨ handle ∈ further.released ∨ handle ∈ newer.released := by
      rcases first.kept handle known with still | released
      · exact (second.kept handle (.inl still)).imp_right .inl
      · exact .inr (.inr released)
    rcases member with known | recent | made
    · exact early (.inl known)
    · exact (second.kept handle (.inr recent)).imp_right .inl
    · exact early (.inr made)

theorem Stretch.still (history : last.history = before.history)
    (behaviour : last.behaviour = before.behaviour) : Stretch given given before last [] :=
  ⟨history, behaviour, fun _ member => member.imp_right fun made => absurd made List.not_mem_nil⟩

/-- What is not touched is handed on. -/
theorem Stretch.beside (stretch : Stretch given kept before last newer) (held : List Handle) :
    Stretch (given ++ held) (kept ++ held) before last newer where
  history := stretch.history
  behaviour := stretch.behaviour
  kept handle member := by
    rw [List.mem_append] at member ⊢
    rcases member with (known | other) | made
    · exact (stretch.kept handle (.inl known)).imp_left .inl
    · exact .inl (.inr other)
    · exact (stretch.kept handle (.inr made)).imp_left .inl

theorem Stretch.more {more : List Handle} (stretch : Stretch given kept before last newer)
    (among : kept ⊆ more) : Stretch given more before last newer :=
  ⟨stretch.history, stretch.behaviour,
    fun handle member => (stretch.kept handle member).imp_left fun known => among known⟩

/-- What happens beside the library does not count. -/
theorem Stretch.apart {later : Engine} (stretch : Stretch given kept before last newer)
    (history : later.history = last.history) (behaviour : later.behaviour = last.behaviour) :
    Stretch given kept before later newer :=
  ⟨history.trans stretch.history, behaviour.trans stretch.behaviour, stretch.kept⟩

/-- A call that was done brings nothing into being. -/
theorem Stretch.done (call : Call) : Stretch given given before
    (before.recorded (.called call .done)) [.called call .done] :=
  ⟨rfl, rfl, fun _ member => member.imp_right fun made => absurd made List.not_mem_nil⟩

/-- Releasing what was held. -/
theorem Stretch.freed (history : last.history = releases handles ++ before.history)
    (behaviour : last.behaviour = before.behaviour) (freed : given ⊆ handles ++ kept) :
    Stretch given kept before last (releases handles) where
  history := history
  behaviour := behaviour
  kept handle member := by
    rw [created_releases] at member
    rw [released_releases]
    rcases member with known | made
    · exact (List.mem_append.mp (freed known)).symm
    · exact absurd made List.not_mem_nil

theorem Surfaced.followed (surfaced : Surfaced before newer cause) (handles : List Handle) :
    Surfaced before (releases handles ++ newer) cause := by
  rcases surfaced with smooth | ⟨earlier, call, error, ⟨smooth, stops, answered⟩, same⟩
  · exact .inl ((Smooth.releases handles).append smooth)
  · obtain ⟨status, others, rfl⟩ := stops
    refine .inr ⟨earlier, call, error, ⟨smooth, ⟨status, handles ++ others, ?_⟩, answered⟩, same⟩
    simp [releases]

theorem Stopped.after {earlier : History} {call : Call} {error : RuntimeError}
    (stopped : Stopped middle earlier call error further) (smooth : newer.Smooth)
    (history : middle.history = newer ++ before.history)
    (behaviour : middle.behaviour = before.behaviour) :
    Stopped before (earlier ++ newer) call error (further ++ newer) where
  smooth := stopped.smooth.append smooth
  stops := by
    obtain ⟨status, handles, rfl⟩ := stopped.stops
    exact ⟨status, handles, by rw [List.append_assoc]⟩
  answered := by
    obtain ⟨code, text, answered, same⟩ := stopped.answered
    refine ⟨code, text, ?_, same⟩
    rw [← answered, Engine.nextAnswer, Engine.nextAnswer, history, behaviour, List.append_assoc]

/-- Where no session was run, neither was it a run that failed. -/
theorem Stopped.idle {earlier : History} {call : Call} {error : RuntimeError}
    (stopped : Stopped before earlier call error newer) (idle : newer.callCount .run = 0) :
    earlier.callCount .run = 0 ∧ call.function ≠ .run := by
  obtain ⟨status, handles, rfl⟩ := stopped.stops
  rw [callCount_append, callCount_append] at idle
  refine ⟨by omega, fun running => ?_⟩
  have counted : 0 < (failing call status).callCount .run :=
    List.countP_pos_iff.mpr ⟨.called call (.failed status), by simp [failing],
      by simpa [Event.function?] using running⟩
  omega

theorem Surfaced.after (surfaced : Surfaced middle further cause) (smooth : newer.Smooth)
    (history : middle.history = newer ++ before.history)
    (behaviour : middle.behaviour = before.behaviour) :
    Surfaced before (further ++ newer) cause := by
  rcases surfaced with smoothToo | ⟨earlier, call, error, stopped, same⟩
  · exact .inl (smoothToo.append smooth)
  · exact .inr ⟨_, call, error, stopped.after smooth history behaviour, same⟩

end Stretches

/-- A step that asks nothing of the library but to release objects, these among them. -/
def Frees (freed : List Handle) (step : Step α) : Prop :=
  ∀ engine, ∃ handles, (step engine).2.history = releases handles ++ engine.history ∧
    (step engine).2.behaviour = engine.behaviour ∧ freed ⊆ handles

namespace Frees

variable {freed freed' : List Handle} {step : Step α} {next : α → Step β}

theorem ofQuiet (history : ∀ engine, (step engine).2.history = engine.history)
    (behaviour : ∀ engine, (step engine).2.behaviour = engine.behaviour) : Frees [] step :=
  fun engine => ⟨[], history engine, behaviour engine, List.nil_subset []⟩

theorem ofPure (value : α) : Frees [] (pure value : Step α) :=
  ofQuiet (fun _ => rfl) fun _ => rfl

theorem ofNote (severity : Severity) (text : String) : Frees [] (note severity text : Step Unit) :=
  ofQuiet (fun _ => rfl) fun _ => rfl

theorem bind (first : Frees freed step) (rest : ∀ value, Frees freed' (next value)) :
    Frees (freed ++ freed') (step >>= next) := by
  intro engine
  obtain ⟨handles, history, behaviour, among⟩ := first engine
  obtain ⟨others, historyLast, behaviourLast, amongOthers⟩ := rest _ (step engine).2
  refine ⟨others ++ handles, ?_, behaviourLast.trans behaviour, ?_⟩
  · change (next (step engine).1 (step engine).2).2.history = _
    rw [historyLast, history, releases, releases, releases, List.map_append, List.append_assoc]
  · refine List.append_subset.mpr ⟨?_, ?_⟩
    · exact List.subset_append_of_subset_right others among
    · exact List.subset_append_of_subset_left handles amongOthers

/-- The last step needs to release nothing. -/
theorem bindQuiet (first : Frees freed step) (rest : ∀ value, Frees [] (next value)) :
    Frees freed (step >>= next) := by
  have both := first.bind rest
  rwa [List.append_nil] at both

theorem fewer (frees : Frees freed step) (among : freed' ⊆ freed) : Frees freed' step := by
  intro engine
  obtain ⟨handles, history, behaviour, all⟩ := frees engine
  exact ⟨handles, history, behaviour, List.Subset.trans among all⟩

theorem release (handle : Handle) : Frees [handle] (Engine.release handle) :=
  fun _ => ⟨[handle], rfl, rfl, List.Subset.refl _⟩

/-- The native environment goes with the last reference. -/
theorem letGo (runtime : Runtime) : Frees [] runtime.letGo := by
  intro engine
  unfold Runtime.letGo
  simp only [bind_apply]
  split
  · exact ⟨[runtime.environment], rfl, rfl, List.nil_subset _⟩
  · exact ⟨[], rfl, rfl, List.nil_subset _⟩

end Frees

/-- How an operation ends that runs no session.  The root of an error is the failure of the library
that it goes back to, if there is one. -/
def Ending (root : ε → Option RuntimeError) (given : List Handle) (kept : α → List Handle)
    (before : Engine) (result : EStateM.Result ε Engine α) : Prop :=
  ∃ newer : History, newer.callCount .run = 0 ∧
    EndsIn (fun value after => Stretch given (kept value) before after newer ∧ newer.Smooth)
      (fun error after => Stretch given [] before after newer ∧ Surfaced before newer (root error))
      result

/-- The course of an operation: whatever the library did before and does now, it ends so. -/
def Course (root : ε → Option RuntimeError) (given : List Handle) (action : Action ε α)
    (kept : α → List Handle) : Prop :=
  ∀ engine, Ending root given kept engine (action engine)

section Endings

variable {root : ε → Option RuntimeError} {given between held : List Handle}
variable {kept : α → List Handle} {before middle : Engine} {newer : History}
variable {result : EStateM.Result ε Engine α}

/-- What came before is a part of the whole. -/
theorem Ending.after (ending : Ending root between kept middle result)
    (stretch : Stretch given between before middle newer) (smooth : newer.Smooth)
    (idle : newer.callCount .run = 0) : Ending root given kept before result := by
  obtain ⟨further, idleToo, reached⟩ := ending
  refine ⟨further ++ newer, by rw [callCount_append, idleToo, idle], ?_⟩
  cases result with
  | ok value after => exact ⟨stretch.trans reached.1, reached.2.append smooth⟩
  | error error after =>
      exact ⟨stretch.trans reached.1, reached.2.after smooth stretch.history stretch.behaviour⟩

/-- What was held is released after a failure, and the failure stays the same. -/
theorem Ending.failed {error : ε} {cleanup : Step Unit}
    (ending : Ending root [] kept before (.error error middle)) (cleans : Frees held cleanup)
    {last : β → List Handle} :
    Ending root held last before (.error error (cleanup middle).2) := by
  obtain ⟨newer, idle, stretch, surfaced⟩ := ending
  obtain ⟨handles, history, behaviour, among⟩ := cleans middle
  have freed : Stretch ([] ++ held) [] middle (cleanup middle).2 (releases handles) :=
    .freed history behaviour (by simpa using among)
  refine ⟨releases handles ++ newer, by rw [callCount_append, runs_releases, idle], ?_⟩
  exact ⟨(stretch.beside held).trans freed, surfaced.followed handles⟩

end Endings

namespace Course

variable {root : ε → Option RuntimeError} {given between held freed : List Handle}
variable {action : Action ε α} {next : α → Action ε β} {kept : α → List Handle}
variable {last : β → List Handle}

theorem ofPure {value : α} (same : given = kept value) :
    Course root given (pure value : Action ε α) kept := by
  subst same
  exact fun _ => ⟨[], rfl, .still rfl rfl, .none⟩

theorem ofThrow (error : ε) : Course root [] (throw error : Action ε α) kept :=
  fun _ => ⟨[], rfl, .still rfl rfl, .inl .none⟩

theorem ofExcept (result : Except ε α) :
    Course root [] (TextVectors.ofExcept result) (fun _ => []) := by
  cases result with
  | ok value => exact fun _ => ⟨[], rfl, .still rfl rfl, .none⟩
  | error error => exact .ofThrow error

theorem bind (first : Course root given action kept)
    (rest : ∀ value, Course root (kept value) (next value) last) :
    Course root given (action >>= next) last := by
  intro engine
  obtain ⟨newer, idle, reached⟩ := first engine
  change Ending root given last engine (EStateM.bind action next engine)
  unfold EStateM.bind
  cases ended : action engine with
  | error error middle =>
      rw [ended] at reached
      exact ⟨newer, idle, reached⟩
  | ok value middle =>
      rw [ended] at reached
      exact (rest value middle).after reached.1 reached.2 idle

theorem ofStep {step : Step α} (frees : Frees freed step) (enough : given ⊆ freed ++ between) :
    Course root given (liftM step : Action ε α) (fun _ => between) := by
  intro engine
  obtain ⟨handles, history, behaviour, among⟩ := frees engine
  refine ⟨releases handles, runs_releases handles, .freed history behaviour ?_, .releases handles⟩
  intro handle member
  rcases List.mem_append.mp (enough member) with released | still
  · exact List.mem_append_left between (among released)
  · exact List.mem_append_right handles still

/-- Objects are released on the way. -/
theorem bindStep {step : Step α} {next : α → Action ε β} (frees : Frees freed step)
    (enough : given ⊆ freed ++ between)
    (rest : ∀ value, Course root between (next value) last) :
    Course root given ((liftM step : Action ε α) >>= next) last :=
  (ofStep frees enough).bind rest

/-- A step that releases nothing. -/
theorem bindQuiet {step : Step α} {next : α → Action ε β} (frees : Frees [] step)
    (rest : ∀ value, Course root given (next value) last) :
    Course root given ((liftM step : Action ε α) >>= next) last :=
  bindStep frees (List.Subset.refl given) rest

theorem map {change : α → β} (course : Course root given action kept)
    (same : ∀ value, kept value = last (change value)) :
    Course root given (change <$> action) last :=
  .bind course fun value => .ofPure (same value)

theorem ofMapFailure {wrap : ε → ε'} {root' : ε' → Option RuntimeError}
    (course : Course root given action kept)
    (same : ∀ error cause, root error = some cause → root' (wrap error) = some cause) :
    Course root' given (mapFailure wrap action) kept := by
  intro engine
  obtain ⟨newer, idle, reached⟩ := course engine
  refine ⟨newer, idle, ?_⟩
  unfold mapFailure
  cases ended : action engine with
  | ok value after =>
      rw [ended] at reached
      exact reached
  | error error after =>
      rw [ended] at reached
      obtain ⟨stretch, smooth | ⟨earlier, call, cause, stopped, rooted⟩⟩ := reached
      · exact ⟨stretch, .inl smooth⟩
      · exact ⟨stretch, .inr ⟨earlier, call, cause, stopped, same _ _ rooted⟩⟩

/-- What is found wrong in advance. -/
theorem ofChecked (wrap : ε → ε') (result : Except ε α) {root' : ε' → Option RuntimeError} :
    Course root' [] (mapFailure wrap (TextVectors.ofExcept result)) (fun _ => []) := by
  cases result with
  | ok value => exact .ofPure rfl
  | error error => exact .ofThrow (wrap error)

theorem step_bind_apply (step : Step α) (next : α → Action ε β) (engine : Engine) :
    ((liftM step : Action ε α) >>= next) engine = next (step engine).1 (step engine).2 := rfl

theorem orCleanUp_apply (cleanup : Step Unit) (action : Action ε α) (engine : Engine) :
    TextVectors.orCleanUp cleanup action engine =
      match action engine with
      | .ok value after => .ok value after
      | .error error after => .error error (cleanup after).2 := by
  unfold TextVectors.orCleanUp attempt
  rw [step_bind_apply]
  cases action engine <;> rfl

/-- An operation beside which something is held, which a cleanup releases if it fails. -/
theorem orCleanUp {cleanup : Step Unit} (tried : Course root [] action kept)
    (cleans : Frees held cleanup) :
    Course root held (orCleanUp cleanup action) (fun value => kept value ++ held) := by
  intro engine
  have ending := tried engine
  rw [orCleanUp_apply]
  cases ended : action engine with
  | ok value after =>
      rw [ended] at ending
      obtain ⟨newer, idle, stretch, smooth⟩ := ending
      exact ⟨newer, idle, stretch.beside held, smooth⟩
  | error error middle =>
      rw [ended] at ending
      exact ending.failed cleans

/-- An operation whose failure comes back after something that was held is released. -/
theorem bindAttempt {cleanup : Step Unit} {next : Except ε α → Action ε β}
    (tried : Course root [] action kept) (cleans : Frees held cleanup)
    (succeeds : ∀ value, Course root (kept value) (next (.ok value)) last)
    (fails : ∀ error, next (.error error) = throw error) :
    Course root held ((liftM (attempt action) : Action ε (Except ε α)) >>= fun result =>
      (liftM cleanup : Action ε Unit) >>= fun _ => next result) last := by
  intro engine
  have ending := tried engine
  rw [step_bind_apply, attempt]
  cases ended : action engine with
  | ok value middle =>
      rw [ended] at ending
      obtain ⟨newer, idle, stretch, smooth⟩ := ending
      have released : Course root (kept value ++ held)
          ((liftM cleanup : Action ε Unit) >>= fun _ => next (.ok value)) last :=
        bindStep cleans (List.append_subset.mpr ⟨List.subset_append_right held (kept value),
          List.subset_append_left held (kept value)⟩) fun _ => succeeds value
      exact (released middle).after (stretch.beside held) smooth idle
  | error error middle =>
      rw [ended] at ending
      rw [step_bind_apply, fails]
      exact ending.failed cleans

end Course

/-- A call that fails stops whatever it is made for. -/
theorem stopped_of_failure {engine : Engine} {call : Call} {code : Int}
    {text : Option (List UInt8)}
    (answered : engine.nextAnswer call.function = .failure code text) :
    ∃ after cause, Engine.request call engine = .error cause after ∧
      Stretch [] [] engine after (failing call (engine.history.fresh .status)) ∧
      Stopped engine [] call cause (failing call (engine.history.fresh .status)) := by
  refine ⟨_, _, Engine.request_failure answered, ⟨rfl, rfl, ?_⟩, .none, ⟨_, [], rfl⟩,
    code, text, answered, rfl⟩
  -- The status is all that came into being, and it was released.
  rintro handle (known | made)
  · exact absurd known List.not_mem_nil
  · exact .inr made

theorem smooth_of_outcome {call : Call} {outcome : Outcome}
    (fine : ∀ status, outcome ≠ .failed status) : Smooth [.called call outcome] := by
  intro other status member
  cases List.mem_singleton.mp member
  exact fine status rfl

theorem request_course {call : Call} (idle : call.function ≠ .run)
    {kept : Option Handle → List Handle}
    (hands : ∀ value, (call.creates = none → value = none) → value.toList ⊆ kept value) :
    Course some [] (Engine.request call) kept := by
  intro engine
  rcases Engine.request_cases call engine with
    ⟨code, text, answered⟩ | ⟨outcome, fine, nothing, done⟩
  · obtain ⟨after, cause, failed, stretch, stopped⟩ := stopped_of_failure answered
    rw [failed]
    exact ⟨_, runs_failing idle _, stretch, .inr ⟨[], call, cause, stopped, rfl⟩⟩
  · rw [done]
    refine ⟨[.called call outcome], by simpa [callCount, Event.function?] using idle,
      ⟨rfl, rfl, ?_⟩, smooth_of_outcome fine⟩
    rintro handle (known | made)
    · exact absurd known List.not_mem_nil
    · refine .inl (hands _ (fun none => by rw [nothing none]; rfl) ?_)
      simpa [created] using made

/-- A call that may hand out an object. -/
theorem makes_course {call : Call} (idle : call.function ≠ .run) :
    Course some [] (Engine.request call) Option.toList :=
  request_course idle fun value _ => List.Subset.refl value.toList

/-- A call that hands out nothing. -/
theorem sets_course {call : Call} (idle : call.function ≠ .run) (nothing : call.creates = none) :
    Course some [] (Engine.request call) (fun _ => []) :=
  request_course idle fun value none => by rw [none nothing]; exact List.nil_subset _

end TextVectors

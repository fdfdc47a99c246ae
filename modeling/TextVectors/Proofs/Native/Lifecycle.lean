import TextVectors.Proofs.Native.Environment
import TextVectors.Proofs.Native.Request
import TextVectors.Scripted.Host
import TextVectors.Scripted.Runtime

namespace TextVectors.Inference

/-! What clients do with an environment that they share.

A lock makes each of their calls one step.  Whatever any number of clients do is therefore a
list of turns, in the order in which they got the lock.  A turn finds files, variables and a
library in any state, so that at each turn loading can end in every way it ever does.
-/

inductive EnvironmentCall where
  | load
  | unload
  | setLibraryPath (path : String)
  | setLogLevel (level : LoggingLevel)
deriving DecidableEq

structure Turn where
  call : EnvironmentCall
  host : Host
  engine : Engine

namespace Turn

def perform (turn : Turn) (found : Environment) : Except RuntimeError Environment × Engine :=
  match turn.call with
  | .load => attempt (found.load turn.host) turn.engine
  | .unload =>
      let (left, after) := found.unload turn.engine
      (.ok left, after)
  | .setLibraryPath path => (found.setLibraryPath path, turn.engine)
  | .setLogLevel level => (found.setLogLevel level, turn.engine)

/-- A call that fails stores nothing. -/
def leaves (turn : Turn) (found : Environment) : Environment :=
  match (turn.perform found).1 with
  | .ok left => left
  | .error _ => found

def events (turn : Turn) (found : Environment) : List Event :=
  (turn.perform found).2.eventsSince turn.engine

/-- The path that was recorded, or else the variable's value. -/
def libraryPath (turn : Turn) (found : Environment) : Option String :=
  found.libraryPath <|> turn.host.libraryVariable

/-- What one turn does to the environment that it finds, and asks of the library. -/
structure Lawful (turn : Turn) (found : Environment) : Prop where
  loaded_iff : (∃ runtime, found.loaded = .ok runtime) ↔ 0 < found.count
  /-- A load that fails changes nothing, so that the next one tries again. -/
  failed_load : turn.call = .load → ∀ error, (turn.perform found).1 = .error error →
    found.count = 0 ∧ turn.leaves found = found
  further_load : turn.call = .load → 0 < found.count →
    turn.perform found = (.ok { found with count := found.count + 1 }, turn.engine)
  /-- The first load goes by what is recorded when it is made. -/
  first_load : turn.call = .load → found.count = 0 →
    turn.perform found = attempt (do
      let some path := turn.libraryPath found | throw .libraryPathNotSet
      let path ← ofExcept (checkLibraryPath turn.host path)
      let runtime ← Runtime.load turn.host path found.logLevel
      return { found with count := 1, runtime := some runtime }) turn.engine
  first_loaded : turn.call = .load → found.count = 0 → ∀ left, (turn.perform found).1 = .ok left →
    ∃ runtime, left = { found with count := 1, runtime := some runtime } ∧
      turn.libraryPath found = some runtime.libraryPath ∧
      .called (.createEnvironment found.logLevel Runtime.logId) (.created runtime.environment) ∈
        turn.events found
  opened_by : ∀ event ∈ turn.events found,
    event.function? = some .createEnv ∨ event = .askedVersion apiVersion →
      turn.call = .load ∧ found.count = 0
  created_with : ∀ level id outcome,
    .called (.createEnvironment level id) outcome ∈ turn.events found → level = found.logLevel
  created_once : (turn.events found).countP (·.function? = some .createEnv) ≤ 1
  spare_unload : turn.call = .unload → found.count = 0 →
    turn.perform found = (.ok found, turn.engine)

end Turn

/-- The turns of a run, each with the environment that it finds. -/
def trace (start : Environment) : List Turn → List (Turn × Environment)
  | [] => []
  | turn :: rest => (turn, start) :: trace (turn.leaves start) rest

def afterTurns (start : Environment) (turns : List Turn) : Environment :=
  turns.foldl (fun found turn => turn.leaves found) start

/-- What an attempt to load asks of the library, newest first. -/
inductive Asked (level : LoggingLevel) : History → Prop where
  | nothing : Asked level []
  | version : Asked level [.askedVersion apiVersion]
  | withoutObject : Asked level
      [.called (.createEnvironment level Runtime.logId) .null, .askedVersion apiVersion]
  | withStatus (status : Handle) : Asked level
      [.released status, .readMessage status, .readCode status,
        .called (.createEnvironment level Runtime.logId) (.failed status),
        .askedVersion apiVersion]
  | created (handle : Handle) : Asked level
      [.called (.createEnvironment level Runtime.logId) (.created handle),
        .askedVersion apiVersion]

section Loading

variable {host : Host} {path : String} {level : LoggingLevel} {base : History}

theorem request_creating (base : History) {call : Call} {kind : ObjectKind}
    (creating : call.creates = some kind) :
    Attains (fun engine => engine.history = base) (Engine.request call)
      (fun answer engine =>
        (answer = none ∧ engine.history = .called call .null :: base) ∨
        ∃ handle, answer = some handle ∧ engine.history = .called call (.created handle) :: base)
      (fun _ engine => ∃ status, engine.history = .released status :: .readMessage status ::
        .readCode status :: .called call (.failed status) :: base) := by
  intro engine started
  cases answered : engine.nextAnswer call.function with
  | success =>
      rw [Engine.request_created answered creating]
      exact .inr ⟨_, rfl, by rw [← started]; rfl⟩
  | null =>
      rw [Engine.request_null answered creating]
      exact .inl ⟨rfl, by rw [← started]; rfl⟩
  | failure code text =>
      rw [Engine.request_failure answered]
      exact ⟨_, by rw [← started]; rfl⟩

theorem checkVersion_history (version : String) :
    Ensures (fun engine => engine.history = base) (Runtime.checkVersion host version)
      (fun _ engine => engine.history = base) := by
  unfold Runtime.checkVersion
  split
  · split
    · split <;> exact fun _ started => started
    · exact fun _ started => started
  · exact fun _ started => started

theorem Runtime.load_history : Attains (fun engine => engine.history = base)
    (Runtime.load host path level)
    (fun runtime engine => runtime.libraryPath = path ∧ engine.history =
      .called (.createEnvironment level logId) (.created runtime.environment) ::
        .askedVersion apiVersion :: base)
    (fun _ engine => ∃ newer, Asked level newer ∧ engine.history = newer ++ base) := by
  unfold Runtime.load
  refine .bind .ofGet fun engine => ?_
  refine .bind (.ofExcept (fun _ _ _ reached => reached.2)
    fun _ _ _ reached => ⟨[], .nothing, reached.2⟩) fun _ => ?_
  dsimp only
  split
  · exact .bindThrow fun _ started => ⟨[], .nothing, started⟩
  · refine .bind (.ofStep (checkVersion_history _)) fun _ => ?_
    have asked : Ensures (fun engine : Engine => engine.history = base)
        (Engine.record (.askedVersion apiVersion))
        (fun _ engine => engine.history = .askedVersion apiVersion :: base) :=
      .ofModify fun engine started => congrArg (_ :: ·) started
    refine .bind (.ofStep asked) fun _ => ?_
    split
    · exact .bindThrow fun _ reached => ⟨_, .version, reached⟩
    · refine .bind (.ofExcept (fun _ _ _ reached => reached)
        fun _ _ _ reached => ⟨_, .version, reached⟩) fun _ => ?_
      have creating : (Call.createEnvironment level logId).creates = some .environment := rfl
      have created := request_creating (.askedVersion apiVersion :: base) creating
      refine .bind (created.weaken (fun _ _ reached => reached) ?_) fun answer => ?_
      · intro error engine reached
        obtain ⟨status, reached⟩ := reached
        exact ⟨_, .withStatus status, reached⟩
      · cases answer with
        | none =>
            refine .ofThrow fun engine reached => ?_
            simp only [true_and, reduceCtorEq, false_and, exists_false, or_false] at reached
            exact ⟨_, .withoutObject, reached⟩
        | some environment =>
            intro engine reached
            simp only [reduceCtorEq, false_and, false_or, Option.some.injEq, exists_eq_left'] at reached
            exact ⟨rfl, reached⟩

theorem resolveLibraryPath_eq (explicit : Option String) :
    resolveLibraryPath host explicit =
      match explicit <|> host.libraryVariable with
      | none => .error .libraryPathNotSet
      | some path => checkLibraryPath host path := by
  cases explicit with
  | some path => rfl
  | none =>
      cases named : host.libraryVariable with
      | none =>
          simp only [resolveLibraryPath, named]
          rfl
      | some path =>
          by_cases empty : path = ""
          · simp only [resolveLibraryPath, named, checkLibraryPath, empty]
            rfl
          · simp only [resolveLibraryPath, named, empty]
            rfl

theorem checkLibraryPath_ok {given : String} (checked : checkLibraryPath host given = .ok path) :
    path = given := by
  unfold checkLibraryPath at checked
  split at checked
  · cases checked
  · split at checked
    · cases checked
    · cases checked
      rfl
    · cases checked

end Loading

namespace Environment

variable {environment : Environment} {base : History}

theorem load_of_loaded (host : Host) (loaded : 0 < environment.count) :
    environment.load host = pure { environment with count := environment.count + 1 } := by
  simp only [load, gt_iff_lt, if_pos loaded]

theorem load_of_unloaded (host : Host) (unloaded : environment.count = 0) :
    environment.load host = do
      let path ← ofExcept (resolveLibraryPath host environment.libraryPath)
      let runtime ← Runtime.load host path environment.logLevel
      return { environment with count := 1, runtime := some runtime } := by
  simp only [load, gt_iff_lt, unloaded, Nat.lt_irrefl, if_false]

/-- The first load, with what it has asked of the library by the time it ends. -/
theorem load_history (host : Host) (unloaded : environment.count = 0) :
    Attains (fun engine => engine.history = base) (environment.load host)
      (fun left engine => ∃ runtime,
        left = { environment with count := 1, runtime := some runtime } ∧
        (environment.libraryPath <|> host.libraryVariable) = some runtime.libraryPath ∧
        engine.history = .called (.createEnvironment environment.logLevel Runtime.logId)
          (.created runtime.environment) :: .askedVersion apiVersion :: base)
      (fun _ engine => ∃ newer, Asked environment.logLevel newer ∧
        engine.history = newer ++ base) := by
  have named (path : String)
      (resolved : resolveLibraryPath host environment.libraryPath = .ok path) :
      (environment.libraryPath <|> host.libraryVariable) = some path := by
    rw [resolveLibraryPath_eq] at resolved
    cases chosen : environment.libraryPath <|> host.libraryVariable with
    | none =>
        rw [chosen] at resolved
        cases resolved
    | some given =>
        rw [chosen] at resolved
        exact congrArg some (checkLibraryPath_ok resolved).symm
  rw [load_of_unloaded host unloaded]
  refine .bind (.ofExcept (fun path resolved engine started => And.intro (named path resolved) started)
    fun _ _ _ started => ⟨[], .nothing, started⟩) fun path => ?_
  intro engine reached
  obtain ⟨chosen, started⟩ := reached
  refine Attains.bind Runtime.load_history (fun runtime => ?_) engine started
  refine .ofPure fun _ reached => ⟨runtime, rfl, ?_, reached.2⟩
  rw [reached.1]
  exact chosen

/-- At most one object is released. -/
def ReleasedAtMostOne (base : History) (engine : Engine) : Prop :=
  engine.history = base ∨ ∃ handle, engine.history = .released handle :: base

theorem letGo_history (runtime : Runtime) :
    Ensures (fun engine => engine.history = base) runtime.letGo
      (fun _ => ReleasedAtMostOne base) := by
  intro engine started
  simp only [Runtime.letGo, bind_apply]
  split
  · exact .inr ⟨runtime.environment, congrArg _ started⟩
  · exact .inl started

/-- What is left when one load is taken back. -/
def unloaded (environment : Environment) : Environment :=
  match environment.count with
  | 0 => environment
  | 1 => { environment with count := 0, runtime := none }
  | count + 2 => { environment with count := count + 1 }

theorem detach_history (base : History) (environment : Environment) :
    Ensures (fun engine => engine.history = base) environment.detach (fun left engine =>
      left = { environment with count := 0, runtime := none } ∧ ReleasedAtMostOne base engine) := by
  unfold detach
  cases held : environment.runtime with
  | none => exact .ofPure fun _ started => ⟨by rw [← held], .inl started⟩
  | some runtime =>
      exact (letGo_history runtime).bind fun _ => .ofPure fun _ released => ⟨rfl, released⟩

theorem unload_history (environment : Environment) :
    Ensures (fun engine => engine.history = base) environment.unload (fun left engine =>
      left = environment.unloaded ∧ ReleasedAtMostOne base engine) := by
  unfold unload
  split
  · rename_i none
    exact .ofPure fun _ started => ⟨by simp only [unloaded, none], .inl started⟩
  · rename_i one
    have detached := detach_history base environment
    have last : environment.unloaded = { environment with count := 0, runtime := none } := by
      simp only [unloaded, one]
    rw [← last] at detached
    split
    · exact detached
    · refine Ensures.bind (show Ensures _ _ fun _ engine => engine.history = base from
        fun _ started => started) fun count => ?_
      dsimp only
      split
      · exact Ensures.bind (fun _ started => started) fun _ => detached
      · exact detached
  · rename_i several
    exact .ofPure fun _ started => ⟨by simp only [unloaded, several], .inl started⟩

end Environment

namespace Turn

variable {turn : Turn} {found : Environment}

theorem perform_load (called : turn.call = .load) :
    turn.perform found = attempt (found.load turn.host) turn.engine := by
  simp only [perform, called]

theorem perform_unload (called : turn.call = .unload) :
    turn.perform found = (.ok (found.unload turn.engine).1, (found.unload turn.engine).2) := by
  simp only [perform, called]
  rfl

theorem perform_further (called : turn.call = .load) (loaded : 0 < found.count) :
    turn.perform found = (.ok { found with count := found.count + 1 }, turn.engine) := by
  rw [perform_load called, found.load_of_loaded turn.host loaded]
  rfl

theorem perform_spare (called : turn.call = .unload) (unloaded : found.count = 0) :
    turn.perform found = (.ok found, turn.engine) := by
  rw [perform_unload called]
  simp only [Environment.unload, unloaded]
  rfl

theorem perform_first (called : turn.call = .load) (unloaded : found.count = 0) :
    turn.perform found = attempt (do
      let some path := turn.libraryPath found | throw .libraryPathNotSet
      let path ← ofExcept (checkLibraryPath turn.host path)
      let runtime ← Runtime.load turn.host path found.logLevel
      return { found with count := 1, runtime := some runtime }) turn.engine := by
  rw [perform_load called, found.load_of_unloaded turn.host unloaded, resolveLibraryPath_eq]
  unfold libraryPath
  cases found.libraryPath <|> turn.host.libraryVariable <;> rfl

/-- The ways in which a turn changes an environment. -/
inductive Changes (turn : Turn) (found : Environment) : Environment → Prop where
  | loadFailed (error : RuntimeError) (called : turn.call = .load) (unloaded : found.count = 0)
      (failed : (turn.perform found).1 = .error error) : Changes turn found found
  | loadedFirst (runtime : Runtime) (called : turn.call = .load) (unloaded : found.count = 0)
      (succeeded : (turn.perform found).1 =
        .ok { found with count := 1, runtime := some runtime }) :
      Changes turn found { found with count := 1, runtime := some runtime }
  | loadedFurther (called : turn.call = .load) (loaded : 0 < found.count)
      (succeeded : (turn.perform found).1 = .ok { found with count := found.count + 1 }) :
      Changes turn found { found with count := found.count + 1 }
  | unloaded (called : turn.call = .unload) : Changes turn found found.unloaded
  | set (left : Environment) (called : turn.call ≠ .load ∧ turn.call ≠ .unload)
      (same : left.runtime = found.runtime ∧ left.count = found.count)
      (fixed : 0 < found.count → left = found) : Changes turn found left

theorem leaves_ok {left : Environment} (succeeded : (turn.perform found).1 = .ok left) :
    turn.leaves found = left := by
  rw [leaves, succeeded]

theorem leaves_error {error : RuntimeError} (failed : (turn.perform found).1 = .error error) :
    turn.leaves found = found := by
  rw [leaves, failed]

/-- The first load: asked on the way, or carried out. -/
theorem first_ends (called : turn.call = .load) (unloaded : found.count = 0) :
    (∃ error newer, (turn.perform found).1 = .error error ∧ Asked found.logLevel newer ∧
      (turn.perform found).2.history = newer ++ turn.engine.history) ∨
    ∃ runtime, (turn.perform found).1 = .ok { found with count := 1, runtime := some runtime } ∧
      turn.libraryPath found = some runtime.libraryPath ∧
      (turn.perform found).2.history =
        [.called (.createEnvironment found.logLevel Runtime.logId) (.created runtime.environment),
          .askedVersion apiVersion] ++ turn.engine.history := by
  have reached := Environment.load_history turn.host unloaded turn.engine rfl
  rw [perform_load called, attempt]
  cases ended : found.load turn.host turn.engine with
  | error error after =>
      rw [ended] at reached
      obtain ⟨newer, asked, history⟩ := reached
      exact .inl ⟨error, newer, rfl, asked, history⟩
  | ok left after =>
      rw [ended] at reached
      obtain ⟨runtime, rfl, path, history⟩ := reached
      exact .inr ⟨runtime, rfl, path, history⟩

theorem changes_set (result : Except RuntimeError Environment)
    (called : turn.call ≠ .load ∧ turn.call ≠ .unload)
    (performed : (turn.perform found).1 = result)
    (changed : ∀ left, result = .ok left → left = found ∨
      found.count = 0 ∧ left.runtime = found.runtime ∧ left.count = found.count) :
    Changes turn found (turn.leaves found) := by
  cases result with
  | error error =>
      rw [leaves_error performed]
      exact .set found called ⟨rfl, rfl⟩ fun _ => rfl
  | ok left =>
      rw [leaves_ok performed]
      rcases changed left rfl with rfl | ⟨unloaded, same⟩
      · exact .set left called ⟨rfl, rfl⟩ fun _ => rfl
      · exact .set left called same fun loaded => by omega

theorem changes (turn : Turn) (found : Environment) : Changes turn found (turn.leaves found) := by
  cases called : turn.call with
  | load =>
      by_cases loaded : 0 < found.count
      · have performed := perform_further called loaded
        rw [leaves_ok (congrArg Prod.fst performed)]
        exact .loadedFurther called loaded (congrArg Prod.fst performed)
      · have unloaded : found.count = 0 := by omega
        rcases first_ends called unloaded with ⟨error, _, failed, _⟩ | ⟨runtime, succeeded, _⟩
        · rw [leaves_error failed]
          exact .loadFailed error called unloaded failed
        · rw [leaves_ok succeeded]
          exact .loadedFirst runtime called unloaded succeeded
  | unload =>
      have left := (Environment.unload_history found turn.engine rfl).1
      rw [leaves_ok (congrArg Prod.fst (perform_unload called)), left]
      exact .unloaded called
  | setLibraryPath path =>
      refine changes_set (found.setLibraryPath path) (by simp [called])
        (by simp only [perform, called]) fun left set => ?_
      rcases Environment.setLibraryPath_ok set with rfl | ⟨unloaded, rfl⟩
      · exact .inl rfl
      · exact .inr ⟨unloaded, rfl, rfl⟩
  | setLogLevel level =>
      refine changes_set (found.setLogLevel level) (by simp [called])
        (by simp only [perform, called]) fun left set => ?_
      rcases Environment.setLogLevel_ok set with rfl | ⟨unloaded, rfl⟩
      · exact .inl rfl
      · exact .inr ⟨unloaded, rfl, rfl⟩

theorem leaves_counted (turn : Turn) (counted : found.Counted) : (turn.leaves found).Counted := by
  have changed := turn.changes found
  generalize turn.leaves found = left at changed
  cases changed with
  | loadFailed => exact counted
  | loadedFirst => simp [Environment.Counted]
  | loadedFurther called loaded =>
      exact ⟨fun _ => Nat.succ_pos _, fun _ => counted.mpr loaded⟩
  | unloaded =>
      unfold Environment.unloaded
      split
      · exact counted
      · simp [Environment.Counted]
      · exact ⟨fun _ => Nat.succ_pos _, fun _ => counted.mpr (by omega)⟩
  | set _ _ same =>
      rw [Environment.Counted, same.1, same.2]
      exact counted

theorem events_of_history {newer : History}
    (grown : (turn.perform found).2.history = newer ++ turn.engine.history) :
    turn.events found = newer.reverse :=
  Engine.eventsSince_append grown

/-- A first load opens the library, and every other turn asks at most for a release. -/
theorem events_cases (turn : Turn) (found : Environment) :
    (turn.call = .load ∧ found.count = 0 ∧
      ∃ newer, Asked found.logLevel newer ∧ turn.events found = newer.reverse) ∨
    ∀ event ∈ turn.events found, ∃ handle, event = .released handle := by
  have quiet (same : (turn.perform found).2.history = turn.engine.history) :
      ∀ event ∈ turn.events found, ∃ handle, event = .released handle := by
    intro event member
    have grown : (turn.perform found).2.history = [] ++ turn.engine.history := same
    rw [events_of_history grown] at member
    cases member
  cases called : turn.call with
  | setLibraryPath path => exact .inr (quiet (by simp only [perform, called]))
  | setLogLevel level => exact .inr (quiet (by simp only [perform, called]))
  | unload =>
      have performed : turn.perform found =
          (.ok (found.unload turn.engine).1, (found.unload turn.engine).2) := perform_unload called
      rcases (Environment.unload_history found turn.engine rfl).2 with same | ⟨handle, released⟩
      · exact .inr (quiet (by rw [performed, same]))
      · have grown : (turn.perform found).2.history = [.released handle] ++ turn.engine.history := by
          rw [performed, released]
          rfl
        rw [events_of_history grown]
        simp
  | load =>
      by_cases loaded : 0 < found.count
      · exact .inr (quiet (by rw [perform_further called loaded]))
      · have unloaded : found.count = 0 := by omega
        refine .inl ⟨rfl, unloaded, ?_⟩
        rcases first_ends called unloaded with ⟨_, newer, _, asked, grown⟩ | ⟨_, _, _, grown⟩
        · exact ⟨newer, asked, events_of_history grown⟩
        · exact ⟨_, .created _, events_of_history grown⟩

theorem released_function (handle : Handle) :
    (Event.released handle).function? ≠ some .createEnv := by
  obtain ⟨kind, number⟩ := handle
  cases kind <;> simp [Event.function?, ObjectKind.releasedBy]

theorem lawful (turn : Turn) (counted : found.Counted) : turn.Lawful found where
  loaded_iff := by
    rw [Environment.Counted] at counted
    rw [← counted]
    cases held : found.runtime <;> simp [Environment.loaded, held]
  failed_load called error failed := by
    refine ⟨?_, leaves_error failed⟩
    by_contra loaded
    rw [perform_further called (by omega)] at failed
    cases failed
  further_load called loaded := perform_further called loaded
  first_load called unloaded := perform_first called unloaded
  first_loaded called unloaded left succeeded := by
    rcases first_ends called unloaded with ⟨_, _, failed, _⟩ | ⟨runtime, loaded, path, history⟩
    · rw [failed] at succeeded
      cases succeeded
    · rw [loaded] at succeeded
      cases succeeded
      refine ⟨runtime, rfl, path, ?_⟩
      rw [events_of_history history]
      simp
  opened_by event member opening := by
    rcases turn.events_cases found with ⟨called, unloaded, _⟩ | released
    · exact ⟨called, unloaded⟩
    · obtain ⟨handle, rfl⟩ := released event member
      rcases opening with created | asked
      · exact (released_function handle created).elim
      · cases asked
  created_with level id outcome member := by
    rcases turn.events_cases found with ⟨_, _, newer, asked, events⟩ | released
    · rw [events, List.mem_reverse] at member
      cases asked <;> simp_all
    · obtain ⟨handle, same⟩ := released _ member
      cases same
  created_once := by
    rcases turn.events_cases found with ⟨_, _, newer, asked, events⟩ | released
    · rw [events, List.countP_reverse]
      cases asked with
      | withStatus status =>
          have other := released_function status
          simp_all [Event.function?, Call.function]
      | _ => simp [Event.function?, Call.function]
    · rw [List.countP_eq_zero.mpr]
      · exact Nat.zero_le 1
      · intro event member
        obtain ⟨handle, rfl⟩ := released event member
        simpa using released_function handle
  spare_unload called unloaded := perform_spare called unloaded

end Turn

section Runs

variable {start : Environment} {turns : List Turn}

theorem afterTurns_counted (counted : start.Counted) : (afterTurns start turns).Counted := by
  induction turns generalizing start with
  | nil => exact counted
  | cons turn rest ih => exact ih (turn.leaves_counted counted)

/-- While loads are counted all the time, nothing but their number changes. -/
theorem afterTurns_fixed (counting : ∀ step ∈ trace start turns, 0 < step.2.count)
    (still : 0 < (afterTurns start turns).count) :
    ∃ count, afterTurns start turns = { start with count } := by
  induction turns generalizing start with
  | nil => exact ⟨start.count, rfl⟩
  | cons turn rest ih =>
      have loaded : 0 < start.count := counting (turn, start) List.mem_cons_self
      obtain ⟨count, reached⟩ :=
        ih (fun step member => counting step (List.mem_cons_of_mem _ member)) still
      have next : 0 < (turn.leaves start).count := by
        cases rest with
        | nil => exact still
        | cons other others =>
            exact counting (other, turn.leaves start) (List.mem_cons_of_mem _ List.mem_cons_self)
      refine ⟨count, ?_⟩
      change afterTurns (turn.leaves start) rest = _
      rw [reached]
      have changed := turn.changes start
      generalize turn.leaves start = left at changed next
      cases changed with
      | loadFailed => rfl
      | loadedFirst runtime called unloaded => omega
      | loadedFurther => rfl
      | set _ _ _ fixed => rw [fixed loaded]
      | unloaded =>
          unfold Environment.unloaded at next ⊢
          split
          · rfl
          · rename_i one
            simp only [one, Nat.lt_irrefl] at next
          · rfl

def Turn.isUnload (turn : Turn) : Bool :=
  turn.call = .unload

def Turn.hasLoaded (turn : Turn) (found : Environment) : Bool :=
  turn.call = .load ∧ (turn.perform found).1.isOk

theorem Turn.leaves_count {turn : Turn} (spare : turn.call = .unload → 0 < start.count) :
    (turn.leaves start).count + (if turn.isUnload then 1 else 0) =
      start.count + if turn.hasLoaded start then 1 else 0 := by
  have changed := turn.changes start
  generalize turn.leaves start = left at changed
  cases changed with
  | loadFailed error called unloaded failed =>
      simp [isUnload, hasLoaded, called, failed, Except.isOk, Except.toBool]
  | loadedFirst runtime called unloaded succeeded =>
      simp [isUnload, hasLoaded, called, unloaded, succeeded, Except.isOk, Except.toBool]
  | loadedFurther called loaded succeeded =>
      simp [isUnload, hasLoaded, called, succeeded, Except.isOk, Except.toBool]
  | set _ called same => simp [isUnload, hasLoaded, called, same]
  | unloaded called =>
      have loaded := spare called
      simp only [isUnload, hasLoaded, called, Environment.unloaded]
      split
      · omega
      · rename_i one
        simp [one]
      · rename_i count several
        simp [several]

theorem afterTurns_count
    (spare : ∀ step ∈ trace start turns, step.1.call = .unload → 0 < step.2.count) :
    (afterTurns start turns).count + (trace start turns).countP (fun step => step.1.isUnload) =
      start.count + (trace start turns).countP fun step => step.1.hasLoaded step.2 := by
  induction turns generalizing start with
  | nil => rfl
  | cons turn rest ih =>
      have spareHere : turn.call = .unload → 0 < start.count :=
        spare (turn, start) List.mem_cons_self
      have spareLater : ∀ step ∈ trace (turn.leaves start) rest,
          step.1.call = .unload → 0 < step.2.count :=
        fun step member => spare step (List.mem_cons_of_mem _ member)
      have here := Turn.leaves_count spareHere
      have later := ih spareLater
      have run : afterTurns start (turn :: rest) = afterTurns (turn.leaves start) rest := rfl
      simp only [run, trace, List.countP_cons]
      omega

end Runs

/-- Whatever clients do with an environment that starts out unloaded: each turn obeys the laws of
a counted holder, what was recorded and what was loaded stay as they are while loads are counted,
and the count is the balance of loads and unloads. -/
theorem environment_shared (earlier turns : List Turn) (turn : Turn) :
    let start := afterTurns {} earlier
    let final := afterTurns start turns
    turn.Lawful start ∧
      ((∀ step ∈ trace start turns, 0 < step.2.count) → 0 < final.count →
        final.libraryPath = start.libraryPath ∧ final.logLevel = start.logLevel ∧
          final.loaded = start.loaded) ∧
      ((∀ step ∈ trace start turns, step.1.call = .unload → 0 < step.2.count) →
        final.count + (trace start turns).countP (fun step => step.1.isUnload) =
          start.count + (trace start turns).countP fun step => step.1.hasLoaded step.2) := by
  intro start final
  have counted : start.Counted := afterTurns_counted (by simp [Environment.Counted])
  refine ⟨turn.lawful counted, ?_, afterTurns_count⟩
  intro counting still
  obtain ⟨count, same⟩ := afterTurns_fixed counting still
  simp only [final, same, true_and]
  rfl

/-- A load that finds no library, one that does after a path was set, and a run of others between
them and the last unload. -/
theorem second_load_shared :
    let engine : Engine := { behaviour := ({} : Scripted.Runtime).behaviour }
    let turn (call : EnvironmentCall) : Turn := ⟨call, Scripted.host none true, engine⟩
    let start := afterTurns {}
      [turn .load, turn (.setLibraryPath "@/libonnxruntime.so"), turn .load]
    let final := afterTurns start [turn .load, turn (.setLogLevel .fatal), turn .unload]
    (turn .unload).Lawful start ∧ start.count = 1 ∧ final.count + 1 = start.count + 1 ∧
      final.logLevel = start.logLevel ∧ final.loaded = start.loaded := by
  intro engine turn start final
  obtain ⟨lawful, fixed, counted⟩ := environment_shared
    [turn .load, turn (.setLibraryPath "@/libonnxruntime.so"), turn .load]
    [turn .load, turn (.setLogLevel .fatal), turn .unload] (turn .unload)
  obtain ⟨_, level, loaded⟩ := fixed (by decide +kernel) (by decide +kernel)
  exact ⟨lawful, by decide +kernel, counted (by decide +kernel), level, loaded⟩

end TextVectors.Inference

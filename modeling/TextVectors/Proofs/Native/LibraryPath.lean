import TextVectors.Proofs.Native.Lifecycle

namespace TextVectors.Inference

/-! Which library path is accepted while a library is loaded.

A path that is set is compared with the path that was recorded, not with the one that the library
was loaded from.  Where a path was ever recorded the two are the same.  A library that was found
through the variable has left no path to compare with, and then every path is refused.
-/

/-- A path that is recorded is the one that the library was loaded from. -/
def Environment.Located (environment : Environment) : Prop :=
  ∀ runtime path, environment.runtime = some runtime → environment.libraryPath = some path →
    path = runtime.libraryPath

theorem Environment.unloaded_libraryPath (found : Environment) :
    found.unloaded.libraryPath = found.libraryPath := by
  unfold Environment.unloaded
  split <;> rfl

namespace Turn

variable {turn : Turn} {found : Environment}

/-- A path is recorded only while nothing is loaded. -/
def records (turn : Turn) (found : Environment) : Bool :=
  match turn.call with
  | .setLibraryPath _ => found.count = 0
  | _ => false

theorem leaves_recorded (turn : Turn) (found : Environment) :
    (turn.leaves found).libraryPath.isSome = (found.libraryPath.isSome || turn.records found) := by
  have changed := turn.changes found
  generalize left : turn.leaves found = after at changed
  cases changed with
  | loadFailed _ called => simp [records, called]
  | loadedFirst _ called => simp [records, called]
  | loadedFurther called => simp [records, called]
  | unloaded called => simp [records, called, found.unloaded_libraryPath]
  | set _ others _ fixed =>
      by_cases loaded : 0 < found.count
      · rw [fixed loaded]
        unfold records
        split
        · simp [Nat.ne_of_gt loaded]
        · simp
      · cases called : turn.call with
        | load => exact absurd called others.1
        | unload => exact absurd called others.2
        | setLibraryPath path =>
            have set : (turn.perform found).1 = .ok { found with libraryPath := some path } := by
              simp only [perform, called, Environment.setLibraryPath, gt_iff_lt, if_neg loaded]
            rw [← left, leaves_ok set]
            simp [records, called, Nat.eq_zero_of_not_pos loaded]
        | setLogLevel level =>
            have set : (turn.perform found).1 = .ok { found with logLevel := level } := by
              simp only [perform, called, Environment.setLogLevel, gt_iff_lt, if_neg loaded]
            rw [← left, leaves_ok set]
            simp [records, called]

theorem leaves_located (turn : Turn) (counted : found.Counted) (located : found.Located) :
    (turn.leaves found).Located := by
  have changed := turn.changes found
  generalize turn.leaves found = left at changed
  cases changed with
  | loadFailed => exact located
  | loadedFirst runtime called unloaded succeeded =>
      intro loaded path same recorded
      obtain rfl := Option.some.inj same
      rcases first_ends called unloaded with ⟨_, _, failed, _⟩ | ⟨other, opened, from_, _⟩
      · rw [failed] at succeeded
        cases succeeded
      · rw [opened] at succeeded
        cases succeeded
        have recorded : found.libraryPath = some path := recorded
        rw [libraryPath, recorded] at from_
        exact Option.some.inj from_
  | loadedFurther => exact located
  | unloaded =>
      intro runtime path held recorded
      rw [found.unloaded_libraryPath] at recorded
      unfold Environment.unloaded at held
      split at held
      · exact located runtime path held recorded
      · cases held
      · exact located runtime path held recorded
  | set _ _ same fixed =>
      by_cases loaded : 0 < found.count
      · rw [fixed loaded]
        exact located
      · intro runtime path held
        have some : found.runtime.isSome := by rw [← same.1, held]; rfl
        exact absurd (counted.mp some) loaded

end Turn

section Runs

variable {start : Environment} {turns : List Turn}

/-- Whether any turn of a run has recorded a path. -/
def pathRecorded (start : Environment) (turns : List Turn) : Bool :=
  (trace start turns).any fun step => step.1.records step.2

theorem afterTurns_recorded (start : Environment) (turns : List Turn) :
    (afterTurns start turns).libraryPath.isSome =
      (start.libraryPath.isSome || pathRecorded start turns) := by
  induction turns generalizing start with
  | nil => simp [afterTurns, pathRecorded, trace]
  | cons turn rest ih =>
      change (afterTurns (turn.leaves start) rest).libraryPath.isSome = _
      rw [ih, turn.leaves_recorded, Bool.or_assoc]
      rfl

theorem afterTurns_located (counted : start.Counted) (located : start.Located) :
    (afterTurns start turns).Located := by
  induction turns generalizing start with
  | nil => exact located
  | cons turn rest ih =>
      exact ih (turn.leaves_counted counted) (turn.leaves_located counted located)

end Runs

/-- What setting a path comes to while a library is loaded. -/
theorem setLibraryPath_loaded {found : Environment} {runtime : Runtime}
    (loaded : 0 < found.count) (held : found.runtime = some runtime) (located : found.Located)
    (path : String) :
    found.setLibraryPath path =
      if found.libraryPath.isSome ∧ FilePath.same path runtime.libraryPath then .ok found
      else .error (.alreadyInitialized "library path") := by
  unfold Environment.setLibraryPath
  rw [if_pos loaded]
  cases recorded : found.libraryPath with
  | none => simp
  | some former =>
      rw [located runtime former held recorded]
      simp

/-- While a library is loaded, a path is accepted if any path was ever recorded and it is the one
that the library was loaded from.  Only where none was recorded does that path lock itself out. -/
theorem library_path_locked (turns : List Turn) (loaded : 0 < (afterTurns {} turns).count) :
    let found := afterTurns {} turns
    ∃ runtime, found.loaded = .ok runtime ∧ ∀ path host engine,
      let turn : Turn := ⟨.setLibraryPath path, host, engine⟩
      let refused : Except RuntimeError Environment := .error (.alreadyInitialized "library path")
      turn.perform found =
          (if pathRecorded {} turns ∧ FilePath.same path runtime.libraryPath then .ok found
            else refused, engine) ∧
        turn.leaves found = found ∧
        ((turn.perform found).1 =
            (if FilePath.same path runtime.libraryPath then .ok found else refused) ↔
          pathRecorded {} turns ∨ ¬ FilePath.same path runtime.libraryPath) := by
  intro found
  have counted : found.Counted := afterTurns_counted (by simp [Environment.Counted])
  have located : found.Located :=
    afterTurns_located (by simp [Environment.Counted]) (by simp [Environment.Located])
  obtain ⟨runtime, held⟩ := Option.isSome_iff_exists.mp (counted.mpr loaded)
  have recorded : found.libraryPath.isSome = pathRecorded {} turns := by
    rw [afterTurns_recorded]
    rfl
  refine ⟨runtime, by simp only [Environment.loaded, held], fun path host engine => ?_⟩
  intro turn refused
  have performed : turn.perform found =
      (if pathRecorded {} turns ∧ FilePath.same path runtime.libraryPath then .ok found
        else refused, engine) := by
    rw [← recorded]
    exact congrArg (·, engine) (setLibraryPath_loaded loaded held located path)
  refine ⟨performed, ?_, ?_⟩
  · have ended := congrArg Prod.fst performed
    by_cases accepted : pathRecorded {} turns ∧ FilePath.same path runtime.libraryPath
    · exact Turn.leaves_ok (ended.trans (if_pos accepted))
    · exact Turn.leaves_error (ended.trans (if_neg accepted))
  · rw [performed]
    by_cases same : FilePath.same path runtime.libraryPath = true
    · by_cases known : pathRecorded {} turns = true
      · simp [same, known]
      · simp [same, known, refused]
    · simp [same]

section Found

/-- A first load that finds the library through the variable. -/
def foundByVariable : Turn where
  call := .load
  host := Scripted.host (some "@/libonnxruntime.so") true
  engine := { behaviour := ({} : Scripted.Runtime).behaviour }

/-- A path that was recorded before a second load is accepted in any of its spellings. -/
theorem recorded_path_accepted :
    let turns := [foundByVariable, { foundByVariable with call := .unload },
      { foundByVariable with call := .setLibraryPath "@/libsecond.so" }, foundByVariable]
    let found := afterTurns {} turns
    0 < found.count ∧ ∃ runtime, found.loaded = .ok runtime ∧
      runtime.libraryPath = "@/libsecond.so" ∧
      found.setLibraryPath "@/./libsecond.so" = .ok found := by
  intro turns found
  obtain ⟨runtime, loaded, accepted⟩ := library_path_locked turns (by decide +kernel)
  have path : found.loaded.map (·.libraryPath) = .ok "@/libsecond.so" := by rfl
  rw [loaded] at path
  have from_ : runtime.libraryPath = "@/libsecond.so" := Except.ok.inj path
  have performed := (accepted "@/./libsecond.so" foundByVariable.host foundByVariable.engine).1
  rw [if_pos ⟨by decide +kernel, by rw [from_]; decide +kernel⟩] at performed
  exact ⟨by decide +kernel, runtime, loaded, from_, congrArg Prod.fst performed⟩

/-- The path of a library that was found through the variable is refused. -/
theorem variable_path_refused :
    let found := afterTurns {} [foundByVariable]
    0 < found.count ∧ found.loaded.map (·.libraryPath) = .ok "@/libonnxruntime.so" ∧
      found.setLibraryPath "@/libonnxruntime.so" = .error (.alreadyInitialized "library path") :=
  ⟨by decide +kernel, rfl, rfl⟩

end Found

end TextVectors.Inference

import TextVectors.Proofs.Client.Accounting

namespace TextVectors

/-! How long native environments live.

Whatever an operation creates is made through the runtime that the operation works on.
The reference of its owner keeps the native environment until the last object that was
made through it has been released, and no longer.
-/

open Inference Owned

/-- An owner refers to the native environments of these runtimes, and has nothing that was made
through none. -/
structure Owned.On (owned : Owned) (runtimes : List Runtime) : Prop where
  apart : owned.1 = 0
  environments : ∀ environment, environment ∈ owned.environments ↔
    ∃ runtime ∈ runtimes, runtime.environment = environment

namespace Owned.On

variable {owned other : Owned} {runtimes others : List Runtime} {α : Type}

theorem zero : On 0 [] := ⟨rfl, by simp [Owned.environments]⟩

theorem stake (runtime : Runtime) (objects : Multiset Handle) :
    On (stake runtime objects) [runtime] :=
  ⟨rfl, by simp [eq_comm]⟩

theorem add (one : On owned runtimes) (another : On other others) :
    On (owned + other) (runtimes ++ others) := by
  refine ⟨by rw [Prod.fst_add, one.apart, another.apart, add_zero], fun environment => ?_⟩
  rw [environments_add, Multiset.mem_add, one.environments, another.environments]
  simp only [List.mem_append, or_and_right, exists_or]

theorem sum {assets : α → Owned} {runtimes : α → List Runtime} {values : List α}
    (each : ∀ value ∈ values, On (assets value) (runtimes value)) :
    On (values.map assets).sum (values.flatMap runtimes) := by
  induction values with
  | nil => exact zero
  | cons value rest ih =>
      rw [List.map_cons, List.sum_cons, List.flatMap_cons]
      exact (each value List.mem_cons_self).add
        (ih fun other member => each other (List.mem_cons_of_mem _ member))

end Owned.On

theorem Inference.Tensor.on_runtime {element : ElementType} {tensor : Tensor element}
    (whole : tensor.Whole) : tensor.assets.On tensor.runtime.toList := by
  cases live : tensor.value with
  | none =>
      have none : tensor.runtime = none := by simpa [Whole, live] using whole
      rw [none, assets, live]
      exact .zero
  | some value =>
      cases loaded : tensor.runtime with
      | none => simp [Whole, live, loaded] at whole
      | some runtime =>
          simp only [assets, live, loaded]
          exact .stake runtime {value}

def BatchSession.runtimes (bundle : BatchSession) : List Runtime :=
  [bundle.session.runtime] ++ (bundle.output.runtime.toList ++
    ((bundle.types.bind (·.runtime)).toList ++
      (bundle.mask.runtime.toList ++ bundle.ids.runtime.toList)))

theorem BatchSession.on_runtimes {bundle : BatchSession} (whole : bundle.Whole) :
    bundle.assets.On bundle.runtimes := by
  have types : (assetsOfTypes bundle.types).On (bundle.types.bind (·.runtime)).toList := by
    cases typed : bundle.types with
    | none => exact .zero
    | some tensor => exact Tensor.on_runtime (whole.types tensor typed)
  exact (On.stake _ _).add ((Tensor.on_runtime whole.output).add
    (types.add ((Tensor.on_runtime whole.mask).add (Tensor.on_runtime whole.ids))))

namespace Client

/-- The runtimes that anything refers to that is held. -/
def Holdings.referred (holdings : Holdings) : List Runtime :=
  holdings.environment.runtime.toList ++ (holdings.runtimes.values ++
    (holdings.tensors.values.flatMap (·.tensor.runtime.toList) ++
      (holdings.sessions.values.map (·.runtime) ++
        holdings.embedders.values.flatMap fun held =>
          held.embedder.sessions.entries.flatMap (·.2.runtimes))))

theorem on_values {α : Type} {table : NameTable α} {assets : α → Owned}
    {runtimes : α → List Runtime}
    (each : ∀ value ∈ table.values, (assets value).On (runtimes value)) :
    (table.total assets).On (table.values.flatMap runtimes) := by
  have all := On.sum each
  rw [NameTable.values, List.map_map] at all
  exact all

theorem Holdings.on_referred {holdings : Holdings} (kept : holdings.Kept) :
    holdings.assets.On holdings.referred := by
  have environment : holdings.environment.assets.On holdings.environment.runtime.toList := by
    rw [Environment.assets]
    cases holdings.environment.runtime with
    | none => exact .zero
    | some runtime => exact .stake runtime 0
  have runtimes : (holdings.runtimes.total reference).On holdings.runtimes.values := by
    have each := on_values fun runtime (_ : runtime ∈ holdings.runtimes.values) =>
      On.stake runtime 0
    rw [List.flatMap_singleton'] at each
    exact each
  have tensors := on_values fun held member => Tensor.on_runtime (kept.whole held member)
  have sessions : (holdings.sessions.total Session.assets).On
      (holdings.sessions.values.map (·.runtime)) := by
    have each := on_values fun session (_ : session ∈ holdings.sessions.values) =>
      On.stake session.runtime (handles session.handle)
    rw [← List.map_eq_flatMap] at each
    exact each
  have embedders := on_values fun held member => On.sum fun entry listed =>
    BatchSession.on_runtimes ((kept.cached held member).suited entry listed).2
  exact environment.add (runtimes.add (tensors.add (sessions.add embedders)))

variable {holdings after : Holdings} {engine last : Engine}

/-- What anything refers to that is held is live, and no other native environments are. -/
theorem Holdings.Settled.live_environment {lineage : Lineage} (settled : holdings.Settled engine)
    {environment : Handle} (root : environment.kind = .environment) :
    environment ∈ engine.history.live ↔
      ∃ runtime ∈ holdings.referred, runtime.environment = environment := by
  have on := Holdings.on_referred settled.kept
  rw [settled.balanced.mem_live, Holds, on.apart, ← on.environments]
  constructor
  · rintro (apart | made | referred)
    · simp at apart
    · have dependent := settled.balanced.placed.dependent_of_made made
      rw [root] at dependent
      cases dependent
    · exact referred
  · exact fun referred => .inr (.inr referred)

/-- The environment that an object is made through in a run: that of the runtime on which the
operation works that brings the object into being. -/
def madeThrough? : List Operation → Holdings → Engine → Handle → Option Handle
  | [], _, _, _ => none
  | operation :: rest, holdings, engine, object =>
      let ((_, after), last) := perform operation holdings engine
      if object ∈ last.history.created then (operation.runtime? holdings).map (·.environment)
      else madeThrough? rest after last object

/-- What objects are made through while an operation works on a runtime. -/
@[reducible]
def tracing (history : History) (known : Handle → Handle → Prop) (runtime : Option Runtime) :
    Lineage where
  earlier := history
  known := known
  current environment := runtime.map (·.environment) = some environment

variable {known : Handle → Handle → Prop}

theorem Holdings.Settled.traced {lineage : Lineage}
    (settled : @Holdings.Settled lineage holdings engine) (runtime : Option Runtime)
    (same : ∀ object ∈ engine.history.created, ∀ environment,
      lineage.through object environment → known object environment) :
    @Holdings.Settled (tracing engine.history known runtime) holdings engine := by
  obtain ⟨kept, balanced⟩ := settled
  refine @Holdings.Settled.mk (tracing _ _ _) _ _ kept
    (balanced.retraced (List.suffix_refl _) fun object existing environment through => ?_)
  exact (Lineage.through_iff (tracing engine.history known runtime) existing environment).mpr
    (same object existing environment through)

theorem Holdings.Settled.grown {lineage : Lineage} (settled : holdings.Settled engine) :
    lineage.earlier <:+ engine.history :=
  settled.balanced.grown

theorem Holdings.Settled.sound {lineage : Lineage} (settled : holdings.Settled engine) :
    engine.history.Sound :=
  settled.balanced.sound

theorem Holdings.Settled.outlived {lineage : Lineage} (settled : holdings.Settled engine)
    {older : History} (suffix : older <:+ engine.history) : Outlived older :=
  settled.balanced.outlived older suffix

/-- Of what was there before this is known already, and there is an account of the rest. -/
def joined (history : History) (known : Handle → Handle → Prop) (account : Handle → Option Handle)
    (object environment : Handle) : Prop :=
  if object ∈ history.created then known object environment else account object = some environment

theorem perform_traced {operation : Operation} {reply : Except ClientError Reply}
    (settled : @Holdings.Settled (tracing engine.history known none) holdings engine)
    (ran : perform operation holdings engine = ((reply, after), last)) :
    @Holdings.Settled (tracing last.history (joined engine.history known fun _ =>
        (operation.runtime? holdings).map (·.environment)) none) after last ∧
      engine.history <:+ last.history := by
  have begun : @Holdings.Settled (tracing engine.history known (operation.runtime? holdings))
      holdings engine :=
    settled.traced _ fun object existing environment through =>
      (Lineage.through_iff (tracing engine.history known none) existing environment).mp through
  have ended : @Holdings.Settled (tracing engine.history known (operation.runtime? holdings))
      after last := by
    refine @perform_settled _ _ _ _ (tracing _ _ _) _ _ ⟨begun, ?_⟩ ran
    intro runtime works
    exact congrArg (Option.map (·.environment)) works
  exact ⟨ended.traced none fun _ _ _ through => through, ended.grown⟩

theorem performAll_traced {operations : List Operation}
    {replies : List (Except ClientError Reply)}
    (settled : @Holdings.Settled (tracing engine.history known none) holdings engine)
    (ran : performAll operations holdings engine = ((replies, after), last)) :
    @Holdings.Settled (tracing last.history (joined engine.history known
        (madeThrough? operations holdings engine)) none) after last ∧
      engine.history <:+ last.history := by
  induction operations generalizing known holdings engine replies with
  | nil =>
      cases ran
      refine ⟨settled.traced none fun object existing environment through => ?_,
        List.suffix_refl _⟩
      rw [joined, if_pos existing]
      exact (Lineage.through_iff (tracing _ known none) existing environment).mp through
  | cons operation rest ih =>
      obtain ⟨reply, between, middle, others, first, second⟩ := performAll_cons ran
      obtain ⟨held, grownFirst⟩ := perform_traced settled first
      obtain ⟨finished, grownRest⟩ := ih held second
      refine ⟨finished.traced none fun object existing environment through => ?_,
        grownFirst.trans grownRest⟩
      have made : joined middle.history (joined engine.history known fun _ =>
          (operation.runtime? holdings).map (·.environment)) (madeThrough? rest between middle)
          object environment :=
        (Lineage.through_iff (tracing _ _ none) existing environment).mp through
      -- What exists after the first operation was there before it or came from its runtime.
      by_cases there : object ∈ middle.history.created
      · simp only [joined, madeThrough?, first, there, if_true] at made ⊢
        exact made
      · have absent : object ∉ engine.history.created := fun member =>
          there ((grownFirst.filterMap _).subset member)
        simp only [joined, madeThrough?, first, there, absent, if_false] at made ⊢
        exact made

section

variable {host : Host} {behaviour : Behaviour} {operations : List Operation}
variable {replies : List (Except ClientError Reply)}

theorem run_traced
    (ran : performAll operations { host } { behaviour } = ((replies, holdings), engine)) :
    @Holdings.Settled (tracing engine.history (fun object environment =>
      madeThrough? operations { host } { behaviour } object = some environment) none)
      holdings engine := by
  have started : @Holdings.Settled (tracing [] (fun _ _ => False) none) { host } { behaviour } :=
    @Holdings.settled_of_first (tracing _ _ _) rfl host behaviour
  refine (performAll_traced started ran).1.traced none fun object existing environment through => ?_
  exact (Lineage.through_iff (tracing _ _ none) existing environment).mp through

/-- At every moment of a run, what is live and depends on a native environment was made through
one that is live. -/
theorem made_through_live
    (ran : performAll operations { host } { behaviour } = ((replies, holdings), engine))
    {newer older : History} (split : engine.history = newer ++ older) {object : Handle}
    (live : object ∈ older.live) (dependent : object.kind.dependent = true) :
    ∃ environment ∈ older.live,
      madeThrough? operations { host } { behaviour } object = some environment := by
  have suffix : older <:+ engine.history := ⟨newer, split.symm⟩
  obtain ⟨environment, liveToo, through⟩ := (run_traced ran).outlived suffix object live dependent
  have existing : object ∈ engine.history.created :=
    (suffix.filterMap _).subset (History.mem_live.mp live).1
  exact ⟨environment, liveToo,
    (Lineage.through_iff (tracing _ _ none) existing environment).mp through⟩

end

/-- In every run a native environment is released at most once, never while the environment
holds its runtime, never before all that was made through it, and once when nothing that is held
refers to it any more. -/
theorem environment_outlives (host : Host) (behaviour : Behaviour) (operations : List Operation)
    (replies : List (Except ClientError Reply)) (holdings : Holdings) (engine : Engine)
    (ran : performAll operations { host } { behaviour } = ((replies, holdings), engine))
    (environment : Handle) (root : environment.kind = .environment) :
    engine.history.released.count environment ≤ 1 ∧
      (∀ runtime, holdings.environment.runtime = some runtime →
        runtime.environment = environment → environment ∉ engine.history.released) ∧
      (∀ newer older, engine.history = newer ++ .released environment :: older →
        ∀ object ∈ History.created older, object.kind.dependent = true →
          madeThrough? operations { host } { behaviour } object = some environment →
            object ∈ History.released older) ∧
      (environment ∈ engine.history.created →
        (∀ runtime ∈ holdings.referred, runtime.environment ≠ environment) →
          engine.history.released.count environment = 1) := by
  have settled := run_traced ran
  have nodup := settled.sound.released_nodup
  have referred := settled.live_environment root
  refine ⟨List.nodup_iff_count_le_one.mp nodup environment, ?_, ?_, ?_⟩
  · intro runtime held same
    have live := referred.mpr ⟨runtime, by simp [Holdings.referred, held], same⟩
    exact (History.mem_live.mp live).2
  · intro newer older split object existing dependent made
    by_contra unreleased
    have distinct : object ≠ environment := by
      rintro rfl
      rw [root] at dependent
      cases dependent
    -- The object is still live right after the release of what it was made through.
    have live : object ∈ History.live (.released environment :: older) :=
      History.mem_live.mpr ⟨existing, fun member =>
        (List.mem_cons.mp member).elim distinct unreleased⟩
    obtain ⟨other, liveToo, madeToo⟩ := made_through_live ran split live dependent
    rw [made] at madeToo
    cases madeToo
    exact (History.mem_live.mp liveToo).2 List.mem_cons_self
  · intro existing unreferred
    apply List.count_eq_one_of_mem nodup
    by_contra unreleased
    have live := History.mem_live.mpr ⟨existing, unreleased⟩
    obtain ⟨runtime, listed, same⟩ := referred.mp live
    exact unreferred runtime listed same

/-- A tensor that is given up after its environment was unloaded and loaded anew. -/
theorem old_environment_outlived :
    let operations : List Operation :=
      [.load, .createTensor "t" .float (.dims [2]) none none, .unload, .load, .discard "t"]
    let script : Scripted.Runtime := {}
    let reached := performAll operations { host := Scripted.host (some "@/libonnxruntime.so") true }
      { behaviour := script.behaviour }
    reached.2.history.released.count ⟨.environment, 1⟩ = 1 ∧
      (⟨.environment, 2⟩ : Handle) ∉ reached.2.history.released ∧
      ∀ newer older, reached.2.history = newer ++ .released ⟨.environment, 1⟩ :: older →
        (⟨.value, 1⟩ : Handle) ∈ History.created older →
          (⟨.value, 1⟩ : Handle) ∈ History.released older := by
  intro operations script reached
  have outlives := environment_outlives (Scripted.host (some "@/libonnxruntime.so") true)
    script.behaviour operations reached.1.1 reached.1.2 reached.2
    (by simp only [Prod.mk.eta, reached])
  obtain ⟨-, -, dependents, once⟩ := outlives ⟨.environment, 1⟩ rfl
  obtain ⟨-, held, -, -⟩ := outlives ⟨.environment, 2⟩ rfl
  refine ⟨once (by decide +kernel) (by decide +kernel), ?_, ?_⟩
  · exact held ⟨⟨.environment, 2⟩, "1.21.0", "@/libonnxruntime.so"⟩ (by decide +kernel) rfl
  · intro newer older split existing
    exact dependents newer older split ⟨.value, 1⟩ existing rfl (by decide +kernel)

end Client

end TextVectors

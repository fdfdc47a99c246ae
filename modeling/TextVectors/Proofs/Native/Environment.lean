import TextVectors.Inference.Environment
import TextVectors.Proofs.Native.Trade

namespace TextVectors.Inference

/-! The environment refers to its runtime as long as it counts any loads. -/

open Owned

section

variable [Lineage]

/-- A new native environment is made through none. -/
theorem createEnvironment_trades (level : LoggingLevel) (logId : String) :
    TradesOr 0 (Engine.request (.createEnvironment level logId)) (fun result => (handles result, 0))
      (fun result => ∀ environment, result = some environment → environment.kind = .environment)
      0 := by
  refine (request_ends (fun result => (handles result, 0)) (by simp [Call.uses]) rfl ?_).weaken ?_
  · intro kind frame engine creating balanced
    cases creating
    change engine.Balanced (0 + frame) at balanced
    rw [zero_add] at balanced
    change (engine.recorded _).Balanced (object (engine.history.fresh .environment) + frame)
    refine balanced.recorded_created (by simp [Event.uses, Call.uses]) rfl rfl (by simp)
      (by simp [Multiset.singleton_add, Multiset.cons_add]) ?_
    exact placed_add.mpr ⟨placed_object.mpr rfl, balanced.placed⟩
  · intro result made environment same
    exact (Option.some.inj (made environment same)).symm

theorem Runtime.load_trades (host : Host) (path : String) (level : LoggingLevel) :
    TradesOr 0 (Runtime.load host path level) reference (fun _ => True) 0 := by
  have checked (version : String) :
      Trades 0 (Runtime.checkVersion host version) (fun _ => 0) (fun _ => True) := by
    unfold Runtime.checkVersion
    split
    · split
      · split
        · exact note_trades _ _
        · exact .ofPure trivial rfl
      · exact note_trades _ _
    · exact .ofPure trivial rfl
  have asked : Trades 0 (Engine.record (.askedVersion apiVersion)) (fun _ => 0) (fun _ => True) :=
    fun _ _ balanced => ⟨trivial, balanced.recorded_plain (by simp [Event.uses]) rfl rfl⟩
  unfold Runtime.load
  refine .bind .ofGet fun engine _ => .bind (.ofExcept _) fun _ _ => ?_
  dsimp only
  split
  · exact .bindThrow rfl
  · refine .bindStep (checked _) fun _ _ => .bindStep asked fun _ _ => ?_
    split
    · exact .bindThrow rfl
    · refine .bind (.ofExcept _) fun _ _ => ?_
      refine .bind (createEnvironment_trades _ _) fun result root => ?_
      cases result with
      | none => exact .ofThrow rfl
      | some environment =>
          exact .bindStep (note_trades _ _) fun _ _ =>
            .bindStep (refer_trades ⟨environment, _, path⟩ (root environment rfl)) fun _ _ =>
              .ofPure trivial rfl

end

namespace Environment

variable {environment : Environment}

def assets (environment : Environment) : Owned :=
  match environment.runtime with
  | none => 0
  | some runtime => reference runtime

/-- A runtime is there exactly while loads are counted. -/
def Counted (environment : Environment) : Prop :=
  environment.runtime.isSome ↔ 0 < environment.count

theorem assets_of_count_zero (counted : environment.Counted) (none : environment.count = 0) :
    environment.assets = 0 := by
  cases loaded : environment.runtime with
  | none => simp only [assets, loaded]
  | some runtime => simp [Counted, loaded, none] at counted

theorem setLibraryPath_ok {changed : Environment} {path : String}
    (set : environment.setLibraryPath path = .ok changed) :
    changed = environment ∨
      environment.count = 0 ∧ changed = { environment with libraryPath := some path } := by
  unfold setLibraryPath at set
  split at set
  · split at set <;> cases set
    exact .inl rfl
  · cases set
    exact .inr ⟨by omega, rfl⟩

theorem setLogLevel_ok {changed : Environment} {level : LoggingLevel}
    (set : environment.setLogLevel level = .ok changed) :
    changed = environment ∨ environment.count = 0 ∧ changed = { environment with logLevel := level } := by
  unfold setLogLevel at set
  split at set
  · split at set <;> cases set
    exact .inl rfl
  · cases set
    exact .inr ⟨by omega, rfl⟩

section

variable [Lineage]

theorem load_trades (host : Host) (counted : environment.Counted) :
    TradesOr environment.assets (environment.load host) assets Counted environment.assets := by
  unfold load
  split
  · rename_i loaded
    refine .ofPure ?_ rfl
    exact ⟨fun _ => Nat.succ_pos _, fun _ => counted.mpr loaded⟩
  · rename_i empty
    rw [assets_of_count_zero counted (by omega)]
    refine .bind (.ofExcept _) fun path _ => ?_
    refine .bind (Runtime.load_trades host path environment.logLevel) fun runtime _ => ?_
    exact .ofPure ⟨fun _ => Nat.one_pos, fun _ => rfl⟩ rfl

theorem detach_trades (environment : Environment) :
    Trades environment.assets environment.detach assets
      (fun after => after.Counted ∧ after.runtime = none) := by
  unfold detach
  cases loaded : environment.runtime with
  | none =>
      refine .ofPure ⟨?_, rfl⟩ ?_
      · simp [Counted]
      · simp only [assets, loaded]
  | some runtime =>
      simp only [assets, loaded]
      refine .bind (letGo_trades runtime) fun _ _ => .ofPure ⟨?_, rfl⟩ rfl
      simp [Counted]

theorem unload_trades (counted : environment.Counted) :
    Trades environment.assets environment.unload assets Counted := by
  have detached : Trades environment.assets environment.detach assets Counted :=
    (detach_trades environment).weaken fun _ holds => holds.1
  unfold unload
  split
  · exact .ofPure counted rfl
  · split
    · exact detached
    · rename_i runtime _
      have counting : Trades environment.assets runtime.referenceCount
          (fun _ => environment.assets) (fun _ => True) :=
        .ofQuiet (fun _ => rfl) (fun _ => rfl) fun _ => trivial
      refine .bind counting fun _ _ => ?_
      dsimp only
      split
      · exact .bind (note_trades _ _) fun _ _ => detached
      · exact detached
  · rename_i count several
    have loaded : environment.runtime.isSome := counted.mpr (by omega)
    exact .ofPure ⟨fun _ => Nat.succ_pos _, fun _ => loaded⟩ rfl

end

end Environment

end TextVectors.Inference

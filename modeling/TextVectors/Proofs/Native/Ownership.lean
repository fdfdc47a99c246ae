import Mathlib.Algebra.Group.Prod
import Mathlib.Algebra.Order.Group.Multiset
import Mathlib.Data.Multiset.Bind
import Mathlib.Data.Multiset.Dedup
import Mathlib.Tactic.Abel
import TextVectors.Inference.Runtime
import TextVectors.Proofs.Native.History
import TextVectors.Proofs.Native.Request

namespace TextVectors

/-! Who owns the objects of the library.

An object has exactly one owner.  Native environments are owned jointly by
everyone who refers to them, and most objects are made through such an environment:
they are owned together with a reference to it.  A balanced engine is one whose live
objects and references are those of its owners taken together, and in whose history no
object was ever without the environment that it was made through.
-/

open Inference

/-- The kinds of objects that are made through a native environment. -/
def Inference.ObjectKind.dependent : ObjectKind → Bool
  | .memoryInfo | .value | .sessionOptions | .session => true
  | .environment | .status => false

/-- What is known about the environments that objects are made through. -/
class Lineage where
  earlier : History
  /-- What the objects were made through that existed earlier. -/
  known : Handle → Handle → Prop
  /-- What objects are made through since then. -/
  current : Handle → Prop

def Lineage.through [Lineage] (object environment : Handle) : Prop :=
  if object ∈ earlier.created then known object environment else current environment

theorem Lineage.through_iff (lineage : Lineage) {object : Handle}
    (existing : object ∈ lineage.earlier.created) (environment : Handle) :
    lineage.through object environment ↔ lineage.known object environment := by
  rw [through, if_pos existing]

/-- A reference to a native environment, with objects that were made through it. -/
structure Stake where
  environment : Handle
  objects : Multiset Handle

/-- Objects that were made through no environment, and stakes. -/
abbrev Owned := Multiset Handle × Multiset Stake

namespace Owned

def object (handle : Handle) : Owned := ({handle}, 0)

def stake (runtime : Runtime) (objects : Multiset Handle) : Owned :=
  (0, {⟨runtime.environment, objects⟩})

def reference (runtime : Runtime) : Owned := stake runtime 0

/-- The objects that a call may have handed out. -/
def handles (handle : Option Handle) : Multiset Handle :=
  match handle with
  | none => 0
  | some handle => {handle}

/-- One entry for each reference. -/
def environments (owned : Owned) : Multiset Handle :=
  owned.2.map Stake.environment

/-- All objects that were made through environments. -/
def made (owned : Owned) : Multiset Handle :=
  owned.2.bind Stake.objects

def Holds (owned : Owned) (handle : Handle) : Prop :=
  handle ∈ owned.1 ∨ handle ∈ owned.made ∨ handle ∈ owned.environments

variable {owned other : Owned} {handle : Handle} {runtime : Runtime} {objects : Multiset Handle}

theorem handles_none : handles none = 0 := rfl

theorem handles_some (handle : Handle) : handles (some handle) = {handle} := rfl

@[simp]
theorem fst_object : (object handle).1 = {handle} := rfl

@[simp]
theorem fst_stake : (stake runtime objects).1 = 0 := rfl

@[simp]
theorem environments_add : (owned + other).environments =
    owned.environments + other.environments :=
  Multiset.map_add _ _ _

@[simp]
theorem environments_object : (object handle).environments = 0 := rfl

@[simp]
theorem environments_stake : (stake runtime objects).environments = {runtime.environment} :=
  Multiset.map_singleton _ _

@[simp]
theorem made_add : (owned + other).made = owned.made + other.made :=
  Multiset.add_bind _ _ _

@[simp]
theorem made_object : (object handle).made = 0 := rfl

@[simp]
theorem made_stake : (stake runtime objects).made = objects :=
  Multiset.singleton_bind _ _

theorem mem_made : handle ∈ owned.made ↔ ∃ stake ∈ owned.2, handle ∈ stake.objects :=
  Multiset.mem_bind

theorem Holds.add (held : Holds owned handle) (other : Owned) : Holds (owned + other) handle := by
  simp only [Holds, Prod.fst_add, made_add, environments_add, Multiset.mem_add]
  rcases held with own | made | shared
  · exact .inl (.inl own)
  · exact .inr (.inl (.inl made))
  · exact .inr (.inr (.inl shared))

theorem Holds.add_left (held : Holds owned handle) (other : Owned) :
    Holds (other + owned) handle := by
  rw [add_comm]
  exact held.add other

theorem holds_object (handle : Handle) : Holds (object handle) handle :=
  .inl (Multiset.mem_singleton_self handle)

theorem holds_stake (runtime : Runtime) (member : handle ∈ objects) :
    Holds (stake runtime objects) handle := by
  simp [Holds, member]

theorem holds_environment (runtime : Runtime) (objects : Multiset Handle) :
    Holds (stake runtime objects) runtime.environment := by
  simp [Holds]

end Owned

section

variable [Lineage]

/-- What is owned stands with the environments that it was made through. -/
structure Owned.Placed (owned : Owned) : Prop where
  roots : ∀ environment ∈ owned.environments, environment.kind = .environment
  apart : ∀ object ∈ owned.1, object.kind.dependent = false
  through : ∀ stake ∈ owned.2, ∀ object ∈ stake.objects,
    object.kind.dependent = true ∧ Lineage.through object stake.environment

/-- What is live and depends on an environment was made through one that is live. -/
def Outlived (history : History) : Prop :=
  ∀ object ∈ history.live, object.kind.dependent = true →
    ∃ environment ∈ history.live, Lineage.through object environment

structure Engine.Accounted (engine : Engine) (owned : Owned) : Prop where
  sound : engine.history.Sound
  live : (engine.history.live : Multiset Handle) =
    owned.1 + owned.made + owned.environments.dedup
  references : (engine.references : Multiset Handle) = owned.environments
  placed : owned.Placed
  grown : Lineage.earlier <:+ engine.history

structure Engine.Balanced (engine : Engine) (owned : Owned) : Prop
    extends engine.Accounted owned where
  outlived : ∀ older, older <:+ engine.history → Outlived older

end

section

variable [Lineage] {owned other : Owned} {handle : Handle} {runtime : Runtime}
variable {objects : Multiset Handle}

namespace Owned

theorem placed_zero : Placed 0 where
  roots _ member := by simp [environments] at member
  apart _ member := by simp at member
  through _ member := by simp at member

@[simp]
theorem placed_add : (owned + other).Placed ↔ owned.Placed ∧ other.Placed := by
  constructor
  · intro placed
    constructor
    · exact ⟨fun root member => placed.roots root (by simp [member]),
        fun loose member => placed.apart loose (by simp [member]),
        fun stake member => placed.through stake (by simp [member])⟩
    · exact ⟨fun root member => placed.roots root (by simp [member]),
        fun loose member => placed.apart loose (by simp [member]),
        fun stake member => placed.through stake (by simp [member])⟩
  · rintro ⟨one, another⟩
    constructor
    · intro root member
      rw [environments_add, Multiset.mem_add] at member
      exact member.elim (one.roots root) (another.roots root)
    · intro loose member
      exact (Multiset.mem_add.mp member).elim (one.apart loose) (another.apart loose)
    · intro stake member
      exact (Multiset.mem_add.mp member).elim (one.through stake) (another.through stake)

@[simp]
theorem placed_object : (object handle).Placed ↔ handle.kind.dependent = false := by
  constructor
  · exact fun placed => placed.apart handle (Multiset.mem_singleton_self handle)
  · intro apart
    refine ⟨fun _ member => by simp at member, fun loose member => ?_,
      fun _ member => by simp [object] at member⟩
    rw [Multiset.mem_singleton.mp member]
    exact apart

@[simp]
theorem placed_stake : (stake runtime objects).Placed ↔
    runtime.environment.kind = .environment ∧ ∀ object ∈ objects,
      object.kind.dependent = true ∧ Lineage.through object runtime.environment := by
  constructor
  · intro placed
    exact ⟨placed.roots runtime.environment (by simp),
      placed.through ⟨runtime.environment, objects⟩ (Multiset.mem_singleton_self _)⟩
  · rintro ⟨root, made⟩
    refine ⟨fun other member => ?_, fun _ member => by simp at member, fun stake member => ?_⟩
    · rw [environments_stake, Multiset.mem_singleton] at member
      rw [member]
      exact root
    · rw [Multiset.mem_singleton.mp member]
      exact made

theorem Placed.dependent_of_made (placed : owned.Placed) (member : handle ∈ owned.made) :
    handle.kind.dependent = true := by
  obtain ⟨stake, listed, made⟩ := mem_made.mp member
  exact (placed.through stake listed handle made).1

end Owned

end

namespace Engine

open Inference.History Owned

variable [Lineage] {engine after : Engine} {owned : Owned} {handle : Handle} {event : Event}
variable {kind : ObjectKind} {runtime : Runtime} {objects : Multiset Handle}

namespace Accounted

theorem mem_live (accounted : engine.Accounted owned) :
    handle ∈ engine.history.live ↔ owned.Holds handle := by
  rw [← Multiset.mem_coe, accounted.live, Multiset.mem_add, Multiset.mem_add, Multiset.mem_dedup,
    or_assoc]
  rfl

theorem outlived (accounted : engine.Accounted owned) : Outlived engine.history := by
  intro object live dependent
  -- Only what is owned with a reference depends on an environment.
  rcases accounted.mem_live.mp live with apart | made | root
  · rw [accounted.placed.apart object apart] at dependent
    cases dependent
  · obtain ⟨stake, listed, member⟩ := mem_made.mp made
    have referred : stake.environment ∈ owned.environments := Multiset.mem_map_of_mem _ listed
    exact ⟨stake.environment, accounted.mem_live.mpr (.inr (.inr referred)),
      (accounted.placed.through stake listed object member).2⟩
  · rw [accounted.placed.roots object root] at dependent
    cases dependent

theorem not_mem_of_object (accounted : engine.Accounted (object handle + owned)) :
    handle ∉ owned.environments := by
  have nodup := Multiset.coe_nodup.mpr accounted.sound.live_nodup
  rw [accounted.live] at nodup
  simp only [Prod.fst_add, fst_object, made_add, made_object, environments_add,
    environments_object, zero_add, Multiset.singleton_add, Multiset.cons_add,
    Multiset.nodup_cons, Multiset.mem_add, Multiset.mem_dedup, not_or] at nodup
  exact nodup.1.2

end Accounted

namespace Balanced

theorem congr (balanced : engine.Balanced owned) (history : after.history = engine.history)
    (references : after.references = engine.references) : after.Balanced owned := by
  obtain ⟨behaviour, events, entries, consultations, log⟩ := after
  cases history
  cases references
  exact ⟨{ balanced.toAccounted with }, balanced.outlived⟩

/-- Only the last moment is to be looked at. -/
theorem recorded {grown : Owned} (balanced : engine.Balanced owned)
    (accounted : (engine.recorded event).Accounted grown) :
    (engine.recorded event).Balanced grown := by
  refine ⟨accounted, fun older suffix => ?_⟩
  rcases List.suffix_cons_iff.mp suffix with rfl | earlier
  · exact accounted.outlived
  · exact balanced.outlived older earlier

theorem initial (behaviour : Behaviour) (first : Lineage.earlier = []) :
    ({ behaviour } : Engine).Balanced 0 where
  sound := trivial
  live := rfl
  references := rfl
  placed := placed_zero
  grown := by rw [first]
  outlived older suffix := by
    rw [List.suffix_nil.mp suffix]
    exact fun _ live => nomatch live

theorem sound_recorded (balanced : engine.Balanced owned)
    (held : ∀ handle ∈ event.uses, owned.Holds handle)
    (next : ∀ handle, event.created? = some handle → handle = engine.history.fresh handle.kind) :
    (engine.recorded event).history.Sound :=
  ⟨balanced.sound, fun handle used => balanced.mem_live.mpr (held handle used), next⟩

theorem grown_recorded (balanced : engine.Balanced owned) (event : Event) :
    Lineage.earlier <:+ (engine.recorded event).history :=
  balanced.grown.trans (List.suffix_cons _ _)

theorem through_fresh (balanced : engine.Balanced owned) (kind : ObjectKind)
    {environment : Handle} (current : Lineage.current environment) :
    Lineage.through (engine.history.fresh kind) environment := by
  have absent : engine.history.fresh kind ∉ Lineage.earlier.created := fun member =>
    balanced.sound.fresh_not_mem kind ((balanced.grown.filterMap _).subset member)
  rw [Lineage.through, if_neg absent]
  exact current

theorem recorded_plain (balanced : engine.Balanced owned)
    (held : ∀ handle ∈ event.uses, owned.Holds handle) (nothing : event.created? = none)
    (kept : event.released? = none) :
    (engine.recorded event).Balanced owned := by
  refine balanced.recorded { balanced.toAccounted with
    sound := balanced.sound_recorded held (by simp [nothing])
    live := ?_
    grown := balanced.grown_recorded event }
  rw [Engine.recorded, live_plain nothing kept]
  exact balanced.live

/-- What is created is nobody's before, and someone has it then. -/
theorem recorded_created {grown : Owned} (balanced : engine.Balanced owned)
    (held : ∀ handle ∈ event.uses, owned.Holds handle)
    (made : event.created? = some (engine.history.fresh kind)) (kept : event.released? = none)
    (environments : grown.environments = owned.environments)
    (more : grown.1 + grown.made = engine.history.fresh kind ::ₘ (owned.1 + owned.made))
    (placed : grown.Placed) : (engine.recorded event).Balanced grown := by
  refine balanced.recorded {
    sound := balanced.sound_recorded held ?_
    live := ?_
    references := balanced.references.trans environments.symm
    placed
    grown := balanced.grown_recorded event }
  · intro handle same
    rw [made] at same
    cases same
    rfl
  · rw [Engine.recorded, live_created balanced.sound made kept, ← Multiset.cons_coe,
      balanced.live, more, environments, Multiset.cons_add]

/-- What is released has no owner any more. -/
theorem recorded_released {rest : Owned} (balanced : engine.Balanced owned)
    (environments : rest.environments = owned.environments)
    (fewer : owned.1 + owned.made = handle ::ₘ (rest.1 + rest.made)) (placed : rest.Placed) :
    (engine.recorded (.released handle)).Balanced rest := by
  have held : owned.Holds handle := by
    have member : handle ∈ owned.1 + owned.made := by simp [fewer]
    rw [Multiset.mem_add] at member
    exact member.elim .inl fun made => .inr (.inl made)
  refine balanced.recorded {
    sound := balanced.sound_recorded ?_ (fun _ absurd => nomatch absurd)
    live := ?_
    references := balanced.references.trans environments.symm
    placed
    grown := balanced.grown_recorded _ }
  · intro other used
    rw [List.mem_singleton.mp used]
    exact held
  · have taken := Multiset.coe_eq_coe.mpr
      (live_released balanced.sound (balanced.mem_live.mpr held))
    rw [balanced.live, ← Multiset.cons_coe, fewer, Multiset.cons_add,
      Multiset.cons_inj_right] at taken
    rw [environments]
    exact taken.symm

/-- A new native environment gets its first reference. -/
theorem referred (balanced : engine.Balanced (object runtime.environment + owned))
    (root : runtime.environment.kind = .environment) :
    ({ engine with references := runtime.environment :: engine.references } : Engine).Balanced
      (reference runtime + owned) where
  sound := balanced.sound
  live := by
    rw [balanced.live]
    simp only [reference, Prod.fst_add, fst_object, fst_stake, made_add, made_object, made_stake,
      environments_add, environments_object, environments_stake, zero_add,
      Multiset.singleton_add, Multiset.dedup_cons_of_notMem balanced.not_mem_of_object,
      Multiset.cons_add, Multiset.add_cons]
  references := by
    rw [← Multiset.cons_coe, balanced.references]
    simp [reference]
  placed := by simp [reference, root, (placed_add.mp balanced.placed).2]
  grown := balanced.grown
  outlived := balanced.outlived

theorem retained (balanced : engine.Balanced owned)
    (held : runtime.environment ∈ owned.environments) :
    ({ engine with references := runtime.environment :: engine.references } : Engine).Balanced
      (reference runtime + owned) where
  sound := balanced.sound
  live := by
    rw [balanced.live]
    simp only [reference, Prod.fst_add, fst_stake, made_add, made_stake, environments_add,
      environments_stake, zero_add, Multiset.singleton_add, Multiset.dedup_cons_of_mem held]
  references := by
    rw [← Multiset.cons_coe, balanced.references]
    simp [reference]
  placed := by simp [reference, balanced.placed, balanced.placed.roots _ held]
  grown := balanced.grown
  outlived := balanced.outlived

theorem erased_references (balanced : engine.Balanced (reference runtime + owned)) :
    (engine.references.erase runtime.environment : Multiset Handle) = owned.environments := by
  rw [← Multiset.coe_erase, balanced.references]
  simp [reference]

theorem unreferred (balanced : engine.Balanced (reference runtime + owned))
    (others : runtime.environment ∈ owned.environments) :
    ({ engine with references := engine.references.erase runtime.environment } : Engine).Balanced
      owned where
  sound := balanced.sound
  live := by
    rw [balanced.live]
    simp only [reference, Prod.fst_add, fst_stake, made_add, made_stake, environments_add,
      environments_stake, zero_add, Multiset.singleton_add, Multiset.dedup_cons_of_mem others]
  references := balanced.erased_references
  placed := (placed_add.mp balanced.placed).2
  grown := balanced.grown
  outlived := balanced.outlived

/-- With the last reference the native environment goes. -/
theorem unreferred_last (balanced : engine.Balanced (reference runtime + owned))
    (last : runtime.environment ∉ owned.environments) :
    (({ engine with references := engine.references.erase runtime.environment } :
      Engine).recorded (.released runtime.environment)).Balanced owned := by
  have placed := placed_add.mp balanced.placed
  have root := (placed_stake.mp placed.1).1
  -- Until it is released, the environment that nobody refers to is an object on its own.
  have erased : ({ engine with references := engine.references.erase runtime.environment } :
      Engine).Balanced (object runtime.environment + owned) := by
    refine { balanced with live := ?_, references := ?_, placed := ?_ }
    · rw [balanced.live]
      simp only [reference, Prod.fst_add, fst_object, fst_stake, made_add, made_object, made_stake,
        environments_add, environments_object, environments_stake, zero_add,
        Multiset.singleton_add, Multiset.dedup_cons_of_notMem last, Multiset.cons_add,
        Multiset.add_cons]
    · rw [balanced.erased_references]
      simp
    · simp [root, ObjectKind.dependent, placed.2]
  exact erased.recorded_released (by simp) (by simp [Multiset.singleton_add, Multiset.cons_add])
    placed.2

end Balanced

end Engine

/-- Accounts under one lineage are accounts under another that says no less about what exists. -/
theorem Engine.Balanced.retraced {engine : Engine} {owned : Owned} {one other : Lineage}
    (balanced : @Engine.Balanced one engine owned) (grown : other.earlier <:+ engine.history)
    (same : ∀ object ∈ engine.history.created, ∀ environment,
      @Lineage.through one object environment → @Lineage.through other object environment) :
    @Engine.Balanced other engine owned := by
  -- Whatever is owned or was ever live exists, so what is said about it carries over.
  obtain ⟨⟨sound, live, references, ⟨roots, apart, through⟩, -⟩, outlived⟩ := balanced
  refine @Engine.Balanced.mk other _ _ ⟨sound, live, references, ⟨roots, apart, ?_⟩, grown⟩ ?_
  · intro stake listed object member
    obtain ⟨dependent, made⟩ := through stake listed object member
    have held : object ∈ (engine.history.live : Multiset Handle) := by
      rw [live, Multiset.mem_add, Multiset.mem_add]
      exact .inl (.inr (Owned.mem_made.mpr ⟨stake, listed, member⟩))
    exact ⟨dependent, same object (History.mem_live.mp held).1 _ made⟩
  · intro older suffix object held dependent
    obtain ⟨environment, heldToo, made⟩ := outlived older suffix object held dependent
    have existing : object ∈ engine.history.created :=
      (suffix.filterMap _).subset (History.mem_live.mp held).1
    exact ⟨environment, heldToo, same object existing _ made⟩

end TextVectors

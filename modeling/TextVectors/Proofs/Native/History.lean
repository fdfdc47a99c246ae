import Mathlib.Data.List.Nodup
import TextVectors.Inference.Native

namespace TextVectors.Inference.History

/-! Sound histories.

Objects only ever come into being as the next of their kind, and the library is only
given objects that are live at that moment.  That nothing is released twice follows,
because a release is given what it releases.
-/

variable {history older newer : History} {event : Event} {handle : Handle} {kind : ObjectKind}

def Sound : History → Prop
  | [] => True
  | event :: older =>
      Sound older ∧ (∀ handle ∈ event.uses, handle ∈ live older) ∧
        ∀ handle, event.created? = some handle → handle = fresh older handle.kind

theorem mem_live :
    handle ∈ live history ↔ handle ∈ created history ∧ handle ∉ released history := by
  simp [live]

theorem Sound.before (sound : Sound (newer ++ older)) : Sound older := by
  induction newer with
  | nil => exact sound
  | cons event newer ih => exact ih sound.1

theorem Sound.number_le (sound : Sound history) (member : handle ∈ created history) :
    handle.number ≤ (created history).countP (·.kind == handle.kind) := by
  induction history with
  | nil => cases member
  | cons event older ih =>
      obtain ⟨soundOlder, -, next⟩ := sound
      cases made : event.created? with
      | none =>
          rw [created, List.filterMap_cons_none made] at member ⊢
          exact ih soundOlder member
      | some other =>
          rw [created, List.filterMap_cons_some made] at member ⊢
          rw [List.countP_cons]
          rcases List.mem_cons.mp member with rfl | former
          · have numbered := congrArg Handle.number (next handle made)
            simp only [fresh, created] at numbered
            simp [numbered]
          · have earlier := ih soundOlder former
            exact Nat.le_trans earlier (Nat.le_add_right _ _)

theorem Sound.fresh_not_mem (sound : Sound history) (kind : ObjectKind) :
    fresh history kind ∉ created history := by
  intro member
  have bounded := sound.number_le member
  exact absurd bounded (Nat.not_succ_le_self _)

theorem Sound.created_nodup (sound : Sound history) : (created history).Nodup := by
  induction history with
  | nil => simp [created]
  | cons event older ih =>
      obtain ⟨soundOlder, -, next⟩ := sound
      cases made : event.created? with
      | none =>
          rw [created, List.filterMap_cons_none made]
          exact ih soundOlder
      | some handle =>
          rw [created, List.filterMap_cons_some made, List.nodup_cons]
          refine ⟨?_, ih soundOlder⟩
          rw [next handle made]
          exact soundOlder.fresh_not_mem handle.kind

theorem uses_of_released? (gone : event.released? = some handle) : event = .released handle := by
  cases event with
  | released other =>
      cases gone
      rfl
  | _ => cases gone

theorem Sound.live_of_released (sound : Sound (.released handle :: older)) :
    handle ∈ live older :=
  sound.2.1 handle (by simp [Event.uses])

theorem Sound.mem_created_of_released (sound : Sound history)
    (member : handle ∈ released history) : handle ∈ created history := by
  induction history with
  | nil => cases member
  | cons event older ih =>
      have kept : ∀ {handle}, handle ∈ created older → handle ∈ created (event :: older) := by
        intro handle former
        simp only [created, List.filterMap_cons]
        cases event.created? with
        | none => exact former
        | some other => exact List.mem_cons_of_mem _ former
      cases gone : event.released? with
      | none =>
          rw [released, List.filterMap_cons_none gone] at member
          exact kept (ih sound.1 member)
      | some other =>
          rw [released, List.filterMap_cons_some gone] at member
          obtain rfl := uses_of_released? gone
          rcases List.mem_cons.mp member with rfl | former
          · exact kept (mem_live.mp sound.live_of_released).1
          · exact kept (ih sound.1 former)

theorem Sound.released_nodup (sound : Sound history) : (released history).Nodup := by
  induction history with
  | nil => simp [released]
  | cons event older ih =>
      cases gone : event.released? with
      | none =>
          rw [released, List.filterMap_cons_none gone]
          exact ih sound.1
      | some handle =>
          obtain rfl := uses_of_released? gone
          rw [released, List.filterMap_cons_some gone, List.nodup_cons]
          exact ⟨(mem_live.mp sound.live_of_released).2, ih sound.1⟩

theorem Sound.live_nodup (sound : Sound history) : (live history).Nodup :=
  sound.created_nodup.filter _

theorem live_plain (nothing : event.created? = none) (kept : event.released? = none) :
    live (event :: older) = live older := by
  simp only [live, created, released, List.filterMap_cons_none nothing,
    List.filterMap_cons_none kept]

theorem live_created (sound : Sound older) (made : event.created? = some (fresh older kind))
    (kept : event.released? = none) : live (event :: older) = fresh older kind :: live older := by
  have unreleased : fresh older kind ∉ released older := fun member =>
    sound.fresh_not_mem kind (sound.mem_created_of_released member)
  simp only [live, created, released, List.filterMap_cons_some made,
    List.filterMap_cons_none kept, List.filter_cons]
  simp only [released] at unreleased
  simp [unreleased]

/-- A release takes one object out of what is live. -/
theorem live_released (sound : Sound older) (held : handle ∈ live older) :
    (live older).Perm (handle :: live (.released handle :: older)) := by
  have remaining : live (.released handle :: older) = (live older).erase handle := by
    rw [sound.live_nodup.erase_eq_filter]
    simp only [live, created, released, List.filterMap_cons, Event.created?, Event.released?,
      List.filter_filter, List.contains_cons, Bool.not_or]
    rfl
  rw [remaining]
  exact List.perm_cons_erase held

/-- The objects handed to the library at any moment existed and had not been released. -/
theorem Sound.uses_live (sound : Sound (newer ++ event :: older)) (used : handle ∈ event.uses) :
    handle ∈ created older ∧ handle ∉ released older :=
  mem_live.mp (sound.before.2.1 handle used)

/-- When nothing is live any more, every object was released exactly once. -/
theorem Sound.released_once (sound : Sound history) (none : live history = [])
    (member : handle ∈ created history) : (released history).count handle = 1 := by
  apply List.count_eq_one_of_mem sound.released_nodup
  by_contra unreleased
  have held := mem_live.mpr ⟨member, unreleased⟩
  rw [none] at held
  cases held

end TextVectors.Inference.History

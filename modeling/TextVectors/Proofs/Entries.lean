import Mathlib.Data.List.Nodup

namespace TextVectors

/-! Entries that are looked up by their keys. -/

variable {κ ρ : Type} [BEq κ] [LawfulBEq κ] {entries : List (κ × ρ)} {key : κ} {value : ρ}

theorem lookup_eq_none : entries.lookup key = none ↔ key ∉ entries.map (·.1) := by
  rw [List.lookup_eq_none_iff]
  constructor
  · intro apart member
    obtain ⟨entry, listed, rfl⟩ := List.mem_map.mp member
    simpa using apart entry listed
  · intro absent entry member
    rw [bne_iff_ne]
    intro same
    subst same
    exact absent (List.mem_map_of_mem member)

theorem filter_of_absent (absent : key ∉ entries.map (·.1)) :
    entries.filter (·.1 != key) = entries := by
  rw [List.filter_eq_self]
  intro entry member
  rw [bne_iff_ne]
  intro same
  subst same
  exact absent (List.mem_map_of_mem member)

/-- Among entries with distinct keys, the one that is found stands once. -/
theorem perm_of_lookup (nodup : (entries.map (·.1)).Nodup)
    (found : entries.lookup key = some value) :
    entries.Perm ((key, value) :: entries.filter (·.1 != key)) := by
  obtain ⟨front, back, split, apart⟩ := List.lookup_eq_some_iff.mp found
  rw [split, List.map_append, List.map_cons, List.nodup_append, List.nodup_cons] at nodup
  have keptFront : front.filter (·.1 != key) = front := by
    rw [List.filter_eq_self]
    intro entry member
    have different := apart entry member
    rw [bne_iff_ne] at different ⊢
    exact different.symm
  rw [split, List.filter_append, List.filter_cons, keptFront, filter_of_absent nodup.2.1.1]
  simp only [bne_self_eq_false, Bool.false_eq_true, if_false]
  exact List.perm_middle

theorem lookup_eq_some_of_mem (nodup : (entries.map (·.1)).Nodup)
    (member : (key, value) ∈ entries) : entries.lookup key = some value := by
  cases found : entries.lookup key with
  | none => exact absurd (List.mem_map_of_mem member) (lookup_eq_none.mp found)
  | some other =>
      have listed := (perm_of_lookup nodup found).mem_iff.mp member
      rcases List.mem_cons.mp listed with same | kept
      · cases same
        rfl
      · simp at kept

theorem mem_of_lookup (found : entries.lookup key = some value) : (key, value) ∈ entries := by
  obtain ⟨front, back, split, -⟩ := List.lookup_eq_some_iff.mp found
  rw [split]
  exact List.mem_append_right _ List.mem_cons_self

/-- Entries with distinct keys are determined by what is found under each key. -/
theorem perm_of_lookup_eq {others : List (κ × ρ)} (nodup : (entries.map (·.1)).Nodup)
    (nodupOthers : (others.map (·.1)).Nodup)
    (same : ∀ key, entries.lookup key = others.lookup key) : entries.Perm others := by
  rw [List.perm_ext_iff_of_nodup (List.Nodup.of_map _ nodup) (List.Nodup.of_map _ nodupOthers)]
  intro reached
  obtain ⟨key, value⟩ := reached
  constructor
  · intro member
    exact mem_of_lookup ((same key).symm.trans (lookup_eq_some_of_mem nodup member))
  · intro member
    exact mem_of_lookup ((same key).trans (lookup_eq_some_of_mem nodupOthers member))

theorem lookup_eq_of_perm {others : List (κ × ρ)} (nodup : (entries.map (·.1)).Nodup)
    (perm : others.Perm entries) (key : κ) : others.lookup key = entries.lookup key := by
  have nodupOthers : (others.map (·.1)).Nodup := (perm.map _).nodup_iff.mpr nodup
  cases found : entries.lookup key with
  | none =>
      rw [lookup_eq_none] at found ⊢
      rwa [(perm.map _).mem_iff]
  | some value =>
      exact lookup_eq_some_of_mem nodupOthers (perm.mem_iff.mpr (mem_of_lookup found))

/-- Under a key of a part is found what is found in the whole, where it is in the part. -/
theorem lookup_filter (nodup : (entries.map (·.1)).Nodup) (keep : κ × ρ → Bool) :
    (entries.filter keep).lookup key =
      (entries.lookup key).filter fun value => keep (key, value) := by
  have nodupPart : ((entries.filter keep).map (·.1)).Nodup :=
    nodup.sublist (List.filter_sublist.map _)
  cases found : entries.lookup key with
  | none =>
      rw [Option.filter_none, lookup_eq_none]
      rw [lookup_eq_none] at found
      exact fun member => found ((List.filter_sublist.map _).subset member)
  | some value =>
      have listed := mem_of_lookup found
      by_cases kept : keep (key, value)
      · rw [Option.filter_some, if_pos kept]
        exact lookup_eq_some_of_mem nodupPart (List.mem_filter.mpr ⟨listed, kept⟩)
      · rw [Option.filter_some, if_neg kept, lookup_eq_none]
        intro member
        obtain ⟨⟨_, other⟩, listedOther, rfl⟩ := List.mem_map.mp member
        obtain ⟨among, keptOther⟩ := List.mem_filter.mp listedOther
        rw [lookup_eq_some_of_mem nodup among] at found
        cases found
        exact kept keptOther

end TextVectors

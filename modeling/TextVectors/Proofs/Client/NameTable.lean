import TextVectors.Client.NameTable
import TextVectors.Proofs.Entries

namespace TextVectors.NameTable

/-! Name tables hold one entry for each name. -/

variable {α : Type} {table : NameTable α} {name other : String} {value : α}

def Sorted (table : NameTable α) : Prop :=
  table.entries.Pairwise fun a b => a.1 < b.1

theorem Sorted.nodup (sorted : table.Sorted) : (table.entries.map (·.1)).Nodup := by
  rw [List.Nodup, List.pairwise_map]
  exact sorted.imp fun less => String.ne_of_lt less

theorem sorted_empty : ({} : NameTable α).Sorted :=
  List.Pairwise.nil

theorem Sorted.erase (sorted : table.Sorted) (name : String) : (table.erase name).Sorted :=
  List.Pairwise.filter _ sorted

theorem mem_putInto {entry : String × α} {entries : List (String × α)}
    (member : entry ∈ putInto name value entries) : entry = (name, value) ∨ entry ∈ entries := by
  induction entries with
  | nil => exact .inl (List.mem_singleton.mp member)
  | cons head rest ih =>
      obtain ⟨known, current⟩ := head
      unfold putInto at member
      split at member
      · rcases List.mem_cons.mp member with same | later
        · exact .inl same
        · exact .inr (List.mem_cons_of_mem _ later)
      · split at member
        · rcases List.mem_cons.mp member with same | listed
          · exact .inl same
          · exact .inr listed
        · rcases List.mem_cons.mp member with same | later
          · exact .inr (same ▸ List.mem_cons_self)
          · rcases ih later with same | listed
            · exact .inl same
            · exact .inr (List.mem_cons_of_mem _ listed)

theorem Sorted.put (sorted : table.Sorted) (name : String) (value : α) :
    (table.put name value).Sorted := by
  obtain ⟨entries⟩ := table
  change (putInto name value entries).Pairwise _
  induction entries with
  | nil => exact List.pairwise_singleton _ _
  | cons head rest ih =>
      obtain ⟨known, current⟩ := head
      obtain ⟨first, later⟩ := List.pairwise_cons.mp sorted
      unfold putInto
      split
      · rename_i same
        subst same
        exact List.pairwise_cons.mpr ⟨first, later⟩
      · rename_i different
        split
        · rename_i less
          refine List.pairwise_cons.mpr ⟨?_, sorted⟩
          intro entry member
          rcases List.mem_cons.mp member with rfl | behind
          · exact less
          · exact String.lt_trans less (first entry behind)
        · rename_i notLess
          have greater : known < name := by
            rcases Decidable.em (known < name) with less | other
            · exact less
            · exact absurd (String.le_antisymm other notLess) different
          refine List.pairwise_cons.mpr ⟨?_, ih later⟩
          intro entry member
          rcases mem_putInto member with rfl | listed
          · exact greater
          · exact first entry listed

/-- Putting an entry is erasing its name and adding the entry. -/
theorem Sorted.put_perm (sorted : table.Sorted) (name : String) (value : α) :
    (table.put name value).entries.Perm ((name, value) :: (table.erase name).entries) := by
  have kept : (table.put name value).entries.filter (·.1 != name) = (table.erase name).entries := by
    obtain ⟨entries⟩ := table
    change (putInto name value entries).filter _ = entries.filter _
    clear sorted
    induction entries with
    | nil => simp [putInto]
    | cons head rest ih =>
        obtain ⟨known, current⟩ := head
        unfold putInto
        split
        · rename_i same
          simp [same]
        · split
          · simp
          · rw [List.filter_cons, List.filter_cons, ih]
  rw [← kept]
  exact perm_of_lookup (sorted.put name value).nodup (table.find?_put name value)

theorem Sorted.perm_of_find? (sorted : table.Sorted) (found : table.find? name = some value) :
    table.entries.Perm ((name, value) :: (table.erase name).entries) :=
  perm_of_lookup sorted.nodup found

theorem erase_of_find?_none (missing : table.find? name = none) :
    (table.erase name).entries = table.entries :=
  filter_of_absent (lookup_eq_none.mp missing)

theorem find?_put_of_ne (table : NameTable α) (value : α) (different : other ≠ name) :
    (table.put name value).find? other = table.find? other := by
  obtain ⟨entries⟩ := table
  change (putInto name value entries).lookup other = entries.lookup other
  have apart : (other == name) = false := by simpa using different
  induction entries with
  | nil => rw [putInto, List.lookup_cons, apart]
  | cons head rest ih =>
      obtain ⟨known, current⟩ := head
      unfold putInto
      split
      · rename_i same
        rw [List.lookup_cons, List.lookup_cons, ← same, apart]
      · split
        · rw [List.lookup_cons, apart]
        · rw [List.lookup_cons, List.lookup_cons, ih]

theorem mem_values_of_find? (found : table.find? name = some value) : value ∈ table.values := by
  obtain ⟨front, back, split, -⟩ := List.lookup_eq_some_iff.mp found
  simp [values, split]

end TextVectors.NameTable

import Mathlib.Data.List.Perm.Subperm
import TextVectors.Json.Record
import TextVectors.Proofs.Entries

namespace TextVectors.Json

/-! Records of which only a part is written.

In an object members may be left out, stand in any order, and have others between them.  What is
found for a field then is what was written for it, or nothing.
-/

/-- The members with names of a record are some of its members, in any order. -/
def Excerpt (whole members : List (String × Json)) : Prop :=
  (members.filter fun member => (whole.map Prod.fst).contains member.1).Subperm whole

/-- Each field of a record is found where its name is given, as it is written. -/
def Fields.Shows (fields : Fields) (whole : List (String × Json)) (given : List String) : Prop :=
  ∀ entry ∈ whole, fields.find? entry.1 = if entry.1 ∈ given then some entry.2 else none

/-- A given value, or the default of what is not given. -/
def pick {α : Type} (given : List String) (name : String) (value default : α) : α :=
  if name ∈ given then value else default

variable {whole members : List (String × Json)} {given : List String} {fields : Fields}

theorem namedMembers?_record (members : List (String × Json)) :
    namedMembers? (members.map fun member => (some member.1, member.2)) = some members := by
  induction members with
  | nil => rfl
  | cons member members ih =>
      unfold namedMembers? at ih ⊢
      simp [ih]

namespace Excerpt

theorem known_distinct (excerpt : Excerpt whole members) (distinct : (whole.map Prod.fst).Nodup) :
    ((members.filter fun member => (whole.map Prod.fst).contains member.1).map Prod.fst).Nodup := by
  obtain ⟨chosen, same, part⟩ := excerpt
  exact (same.map Prod.fst).nodup_iff.mp ((part.map Prod.fst).nodup distinct)

/-- The fields of a partial record. -/
theorem fields? (excerpt : Excerpt whole members)
    (distinct : (whole.map Prod.fst).Nodup) :
    ∃ fields, (record members).fields? (whole.map Prod.fst) = some fields ∧
      fields.Shows whole (members.map Prod.fst) := by
  let known := members.filter fun member => (whole.map Prod.fst).contains member.1
  have once := excerpt.known_distinct distinct
  refine ⟨⟨known⟩, ?_, fun entry listed => ?_⟩
  · have counted : (whole.map Prod.fst).all (fun name => (known.map Prod.fst).count name ≤ 1) := by
      rw [List.all_eq_true]
      intro name _
      exact decide_eq_true (List.nodup_iff_count_le_one.mp once name)
    simp only [record, Json.fields?, namedMembers?_record, bind, Option.bind]
    rw [if_pos counted]
  · have named : entry.1 ∈ whole.map Prod.fst := List.mem_map_of_mem listed
    by_cases written : entry.1 ∈ members.map Prod.fst
    · rw [if_pos written]
      obtain ⟨member, inside, same⟩ := List.mem_map.mp written
      have kept : member ∈ known := List.mem_filter.mpr ⟨inside, by simpa [same] using named⟩
      have original : (entry.1, member.2) ∈ whole := same ▸ List.Subperm.subset excerpt kept
      have alike := lookup_eq_some_of_mem distinct original
      rw [lookup_eq_some_of_mem distinct listed] at alike
      rw [alike]
      exact lookup_eq_some_of_mem once (same ▸ kept)
    · rw [if_neg written]
      refine lookup_eq_none.mpr fun absurd => written ?_
      obtain ⟨member, kept, same⟩ := List.mem_map.mp absurd
      exact same ▸ List.mem_map_of_mem (List.mem_of_mem_filter kept)

/-- A record is an excerpt of itself. -/
theorem refl (whole : List (String × Json)) : Excerpt whole whole :=
  List.Sublist.subperm List.filter_sublist

end Excerpt

/-- A field that reads back is picked where it is given, and has its default elsewhere. -/
theorem Fields.Shows.withDefault {α : Type} (shows : fields.Shows whole given) {value : Json}
    {read : Json → Option α} {back : α} (reads : read value = some back) (name : String)
    (listed : (name, value) ∈ whole) (default : α) :
    fields.withDefault name read default = some (pick given name back default) := by
  unfold Fields.withDefault pick
  rw [shows _ listed]
  by_cases written : name ∈ given
  · rw [if_pos written, if_pos written]
    exact reads
  · rw [if_neg written, if_neg written]

end TextVectors.Json

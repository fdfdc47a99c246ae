namespace TextVectors

/-! Tables of named things, kept in ascending order of the names. -/

structure NameTable (α : Type) where
  entries : List (String × α) := []

namespace NameTable

def find? (table : NameTable α) (name : String) : Option α :=
  table.entries.lookup name

def contains (table : NameTable α) (name : String) : Bool :=
  (table.find? name).isSome

/-- Puts an entry behind all smaller names; an entry of that name is replaced. -/
def putInto (name : String) (value : α) : List (String × α) → List (String × α)
  | [] => [(name, value)]
  | (known, current) :: rest =>
      if name = known then (name, value) :: rest
      else if name < known then (name, value) :: (known, current) :: rest
      else (known, current) :: putInto name value rest

def put (table : NameTable α) (name : String) (value : α) : NameTable α :=
  ⟨putInto name value table.entries⟩

def erase (table : NameTable α) (name : String) : NameTable α :=
  ⟨table.entries.filter fun entry => entry.1 != name⟩

/-- The things in ascending order of their names. -/
def values (table : NameTable α) : List α :=
  table.entries.map (·.2)

theorem lookup_putInto (name : String) (value : α) (entries : List (String × α)) :
    (putInto name value entries).lookup name = some value := by
  induction entries with
  | nil => simp [putInto]
  | cons entry rest ih =>
      obtain ⟨known, current⟩ := entry
      unfold putInto
      split
      · simp
      · rename_i different
        split
        · simp
        · have apart : (name == known) = false := by simpa using different
          rw [List.lookup_cons, apart]
          exact ih

/-- What was put under a name is found under it. -/
theorem find?_put (table : NameTable α) (name : String) (value : α) :
    (table.put name value).find? name = some value :=
  lookup_putInto name value table.entries

end NameTable

end TextVectors

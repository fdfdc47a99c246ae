import TextVectors.Json.Scalar

namespace TextVectors.Json

/-! Records in a JSON text.

A record is an object, or an array that lists its fields in their order.  In an
object the fields may stand in any order, names that are no field are skipped,
and a field may not be given twice.  In an array fields may be missing at the
end, and there may be no more elements than fields.
-/

/-- The values given for the fields of a record, by name. -/
structure Fields where
  given : List (String × Json)

/-- The members of an object with their names as texts. -/
def namedMembers? (members : List (JsonText × Json)) : Option (List (String × Json)) :=
  members.mapM fun member => member.1.map fun name => (name, member.2)

/-- The fields with these names, if the value is a record of them. -/
def fields? (names : List String) : Json → Option Fields
  | .object members => do
      let members ← namedMembers? members
      let known := members.filter fun member => names.contains member.1
      if names.all fun name => (known.map (·.1)).count name ≤ 1 then some ⟨known⟩ else none
  | .array elements =>
      if elements.length ≤ names.length then some ⟨names.zip elements⟩ else none
  | _ => none

def Fields.find? (fields : Fields) (name : String) : Option Json :=
  fields.given.lookup name

def Fields.required (fields : Fields) (name : String) (read : Json → Option α) : Option α :=
  (fields.find? name).bind read

def Fields.withDefault (fields : Fields) (name : String) (read : Json → Option α)
    (default : α) : Option α :=
  match fields.find? name with
  | none => some default
  | some value => read value

/-- The name of a variant without data: a text, or an object whose only member
has that name and the value null. -/
def variantName? : Json → Option String
  | .string text => text
  | .object [(name, .null)] => name
  | _ => none

end TextVectors.Json

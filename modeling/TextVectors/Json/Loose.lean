import TextVectors.Json.Scalar

namespace TextVectors.Json

/-! Reading objects whose members may be left out.

A missing member, or one of another kind than expected, counts as zero, false,
the empty text or the empty list.
-/

/-- The value of a member; null if it is missing. -/
def memberAt (value : Json) (name : String) : Json :=
  (value.member? name).getD .null

/-- The value of a member that is there and not null. -/
def givenAt? (value : Json) (name : String) : Option Json :=
  match value.member? name with
  | some .null => none
  | found => found

def looseText (value : Json) : String :=
  value.text?.getD ""

def looseBool (value : Json) : Bool :=
  value.bool?.getD false

def looseInteger : Json → Int
  | .number value => value.integer?.getD 0
  | _ => 0

def looseNatural (value : Json) : Nat :=
  value.looseInteger.toNat

def looseList : Json → List Json
  | .array elements => elements
  | _ => []

def textAt (value : Json) (name : String) : String :=
  (value.memberAt name).looseText

def textAt? (value : Json) (name : String) : Option String :=
  (value.givenAt? name).map looseText

def boolAt (value : Json) (name : String) : Bool :=
  (value.memberAt name).looseBool

def integerAt (value : Json) (name : String) : Int :=
  (value.memberAt name).looseInteger

def naturalAt (value : Json) (name : String) : Nat :=
  (value.memberAt name).looseNatural

def naturalAt? (value : Json) (name : String) : Option Nat :=
  (value.givenAt? name).map looseNatural

def listAt (value : Json) (name : String) : List Json :=
  (value.memberAt name).looseList

def textsAt (value : Json) (name : String) : List String :=
  (value.listAt name).map looseText

def integersAt (value : Json) (name : String) : List Int :=
  (value.listAt name).map looseInteger

def naturalsAt (value : Json) (name : String) : List Nat :=
  (value.listAt name).map looseNatural

end TextVectors.Json

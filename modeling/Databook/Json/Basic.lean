import Databook.IdMap

/-!
# JSON values

A `Json` keeps the fields of an object in a list, in the order in which they are to be written.
Values read from a text have the fields of each object in the order of their names and no name
twice (`Json.object`'s canonical form, `Json.ofFields`).

Numbers are integers or doubles: an integer of at most 64 bits that was written without a point is
kept as an integer.
-/

namespace Databook

/-- A number of a JSON text. -/
inductive Json.Number where
  | integer (n : Int)
  | double (x : Float)
deriving BEq, Inhabited

/-- The number as a double. -/
def Json.Number.toFloat : Json.Number → Float
  | .integer n => Float.ofInt n
  | .double x => x

/-- A JSON value. -/
inductive Json where
  | null
  | bool (b : Bool)
  | number (n : Json.Number)
  | string (s : String)
  | array (items : List Json)
  | object (fields : List (String × Json))
deriving Inhabited

namespace Json

mutual

/-- Equality of values, with numbers compared as numbers. -/
def beq : Json → Json → Bool
  | null, null => true
  | bool a, bool b => a == b
  | number a, number b => a == b
  | string a, string b => a == b
  | array a, array b => beqItems a b
  | object a, object b => beqFields a b
  | _, _ => false

def beqItems : List Json → List Json → Bool
  | [], [] => true
  | a :: as, b :: bs => beq a b && beqItems as bs
  | _, _ => false

def beqFields : List (String × Json) → List (String × Json) → Bool
  | [], [] => true
  | (k, a) :: as, (l, b) :: bs => k == l && beq a b && beqFields as bs
  | _, _ => false

end

instance : BEq Json := ⟨beq⟩

/-- The object of a list of fields in the order of their names; of two fields with one name the
later counts. -/
def ofFields (fields : List (String × Json)) : Json := .object (IdMap.ofList fields).entries

/-- The object of a map. -/
def ofMap (toJson : α → Json) (m : IdMap α) : Json :=
  .object (m.entries.map fun (id, value) => (id, toJson value))

/-- The array of a list. -/
def ofList (toJson : α → Json) (items : List α) : Json := .array (items.map toJson)

/-- The array of a list of texts. -/
def ofTexts (items : List String) : Json := ofList .string items

/-- A whole number. -/
def ofNat (n : Nat) : Json := .number (.integer n)

/-- A field that is left out when there is no value. -/
def field? (name : String) (toJson : α → Json) : Option α → List (String × Json)
  | some value => [(name, toJson value)]
  | none => []

/-- A field that is left out when the list is empty. -/
def listField? (name : String) (toJson : α → Json) (items : List α) : List (String × Json) :=
  if items.isEmpty then [] else [(name, ofList toJson items)]

end Json

end Databook

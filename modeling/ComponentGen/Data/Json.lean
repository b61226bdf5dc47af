import ComponentGen.Number.Binary64

/-!
# JSON values

The self-describing values that documents are written from and that annotation values are
read into.  An object is an ordered list of fields, so what is written keeps its order.
-/

namespace ComponentGen

open Number

/-- A JSON value. -/
inductive Json where
  | null
  | bool (b : Bool)
  | int (n : Int)
  | float (x : Binary64)
  | text (s : String)
  | array (items : List Json)
  | object (fields : List (String × Json))
  deriving Repr, Inhabited, BEq

namespace Json

/-- The value of the first field with a given name. -/
def field? (name : String) : Json → Option Json
  | .object fields => fields.lookup name
  | _ => none

/-- A field that is left out when there is nothing to write. -/
def optionalField {α : Type} (name : String) (value : Option α) (write : α → Json) :
    List (String × Json) :=
  match value with
  | some v => [(name, write v)]
  | none => []

/-- A list field that is left out when the list is empty. -/
def nonEmptyField {α : Type} (name : String) (items : List α) (write : α → Json) :
    List (String × Json) :=
  if items.isEmpty then [] else [(name, .array (items.map write))]

mutual

/-- The value as it is kept in memory, where numbers are finite and null stands for others. -/
def data : Json → Json
  | .float x => if x.isFinite then .float x else .null
  | .array items => .array (dataItems items)
  | .object fields => .object (dataFields fields)
  | .null => .null
  | .bool b => .bool b
  | .int n => .int n
  | .text s => .text s

/-- The items of an array as they are kept in memory. -/
def dataItems : List Json → List Json
  | [] => []
  | v :: rest => data v :: dataItems rest

/-- The fields of an object as they are kept in memory. -/
def dataFields : List (String × Json) → List (String × Json)
  | [] => []
  | (name, v) :: rest => (name, data v) :: dataFields rest

end

end Json

end ComponentGen

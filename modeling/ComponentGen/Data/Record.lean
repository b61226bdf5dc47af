import ComponentGen.Data.Node
import ComponentGen.Text.Dictionary

/-!
# Records

A record is read from a map by the names of its fields.  Names that the record does not know
are passed over; a field that is given twice, also under one of its other names, is an error.
In JSON a record may also be given as a list of its field values in declaration order, where
trailing fields may be missing but none may be left over.
-/

namespace ComponentGen

/-- The name of a field and the other names that it goes by. -/
structure FieldName where
  name : String
  aliases : List String := []
  deriving Repr

/-- Whether a key names the field. -/
def FieldName.isNamedBy (field : FieldName) (key : String) : Bool :=
  key == field.name || field.aliases.contains key

/-- A field without other names. -/
instance : Coe String FieldName := ⟨fun name => { name }⟩

/-- The fields that a record was given, under their proper names. -/
abbrev RecordFields := List (String × Node)

namespace Record

/-- Takes one entry of a map into the fields read so far. -/
def addEntry (names : List FieldName) (fields : RecordFields) (entry : String × Node) :
    Option RecordFields :=
  match names.find? (·.isNamedBy entry.1) with
  | none => some fields
  | some field =>
      if (fields.lookup field.name).isSome then none
      else some ((field.name, entry.2) :: fields)

/-- The fields of a record, from a map or, in JSON, from a list. -/
def fields? (names : List FieldName) : Node → Option RecordFields
  | .list .json items =>
      if items.length ≤ names.length then some ((names.map (·.name)).zip items) else none
  | node => node.entries?.bind fun entries => entries.foldlM (addEntry names) []

variable {α : Type}

/-- A field that has to be given. -/
def required (fields : RecordFields) (name : String) (read : Node → Option α) : Option α :=
  (fields.lookup name).bind read

/-- A field with a default, which holds only when the field is not given. -/
def withDefault (fields : RecordFields) (name : String) (default : α) (read : Node → Option α) :
    Option α :=
  match fields.lookup name with
  | none => some default
  | some node => read node

/-- Reads a value that may be missing. -/
def ifPresent (read : Node → Option α) : Node → Option (Option α)
  | .scalar s => if s.isAbsent then some none else (read (.scalar s)).map some
  | node => (read node).map some

/-- A field that may be missing. -/
def optional (fields : RecordFields) (name : String) (read : Node → Option α) :
    Option (Option α) :=
  withDefault fields name none (ifPresent read)

/-- A field that holds a list and is empty when it is not given. -/
def listOf (fields : RecordFields) (name : String) (read : Node → Option α) :
    Option (List α) :=
  withDefault fields name [] fun node => node.items?.bind (·.mapM read)

/-- Reads a map whose values are all of one kind; the last value given for a key wins. -/
def dictionary (read : Node → Option α) (node : Node) : Option (Dictionary α) :=
  node.entries?.bind fun entries =>
    (entries.mapM fun entry => (read entry.2).map (entry.1, ·)).map Dictionary.ofEntries

/-- A field that holds a map and is empty when it is not given. -/
def dictionaryOf (fields : RecordFields) (name : String) (read : Node → Option α) :
    Option (Dictionary α) :=
  withDefault fields name [] (dictionary read)

/-- A field that is false when it is not given. -/
def flag (fields : RecordFields) (name : String) : Option Bool :=
  withDefault fields name false Node.bool?

/-- A field that has to be a text. -/
def text (fields : RecordFields) (name : String) : Option String :=
  required fields name Node.text?

/-- A field that is a text or missing. -/
def text? (fields : RecordFields) (name : String) : Option (Option String) :=
  optional fields name Node.text?

end Record

end ComponentGen

import ComponentGen.Data.Record
import ComponentGen.Source.Tree

/-!
# Reading source trees

Declarations are read from document nodes.  The readers are told what surrounds a node, because
annotation values nest without limit and how deep a text may nest is counted from its outermost
value.
-/

namespace ComponentGen.Source

open Number

/-- The visibility with a given name. -/
def Visibility.ofName? : String → Option Visibility
  | "public" => some .isPublic
  | "non-public" => some .nonPublic
  | "private" => some .nonPublic
  | "protected" => some .nonPublic
  | "package" => some .nonPublic
  | _ => none

/-- The only value of a field, if it is given once. -/
def single? (fields : List (String × Json)) (name : String) : Option Json :=
  match fields.filter (·.1 == name) with
  | [(_, value)] => some value
  | _ => none

/-- The type that a value names: a text, or an object with a name. -/
def TypeName.ofJson? : Json → Option TypeName
  | .text name => some { name }
  | .object fields =>
      match single? fields "name" with
      | some (.text name) =>
          if fields.any (·.1 == "resolved") then
            match single? fields "resolved" with
            | some (.bool resolved) => some { name, resolved }
            | _ => none
          else some { name }
      | _ => none
  | _ => none

/-- The type that a node names. -/
def TypeName.read? (around : Nesting) (n : Node) : Option TypeName :=
  (n.valueInside? around).bind TypeName.ofJson?

namespace AnnotationValue

mutual

/-- The annotation value of a JSON value; there is none for null.  A whole number beyond 64 bits
becomes a floating-point number. -/
def ofJson? : Json → Option AnnotationValue
  | .null => none
  | .bool b => some (.bool b)
  | .int n => some (if fitsInt64 n then .int n else .float (Binary64.ofInt n))
  | .float x => some (.float x)
  | .text s => some (.text s)
  | .array items => (ofItems? items).map .list
  | .object fields => (ofFields? fields).map fun values => .nested (Dictionary.ofEntries values)

/-- The annotation values of a list. -/
def ofItems? : List Json → Option (List AnnotationValue)
  | [] => some []
  | v :: rest =>
      match ofJson? v, ofItems? rest with
      | some value, some values => some (value :: values)
      | _, _ => none

/-- The annotation values of named fields. -/
def ofFields? : List (String × Json) → Option (List (String × AnnotationValue))
  | [] => some []
  | (name, v) :: rest =>
      match ofJson? v, ofFields? rest with
      | some value, some values => some ((name, value) :: values)
      | _, _ => none

end

/-- The annotation value of a node. -/
def read? (around : Nesting) (n : Node) : Option AnnotationValue :=
  (n.valueInside? around).bind ofJson?

end AnnotationValue

/-- The values of an annotation. -/
def readValues? (around : Nesting) : Node → Option AnnotationValues :=
  Record.dictionary (AnnotationValue.read? (around + 1))

/-- A tag of a comment. -/
def Tag.read? (n : Node) : Option Tag := do
  let fields ← Record.fields? ["name", "value"] n
  return {
    name := ← Record.text fields "name"
    value := ← Record.withDefault fields "value" "" Node.text? }

/-- What a declaration says about itself, from the fields of its record. -/
def Metadata.ofFields? (around : Nesting) (fields : RecordFields) : Option Metadata := do
  return {
    doc := ← Record.text? fields "doc_comment"
    tags := ← Record.listOf fields "tags" Tag.read?
    annotations := ← Record.dictionaryOf fields "annotations" (readValues? (around + 1)) }

/-- The visibility in the fields of a record; declarations are public by default. -/
def Visibility.ofFields? (fields : RecordFields) : Option Visibility :=
  Record.withDefault fields "visibility" .isPublic fun n => n.choice?.bind Visibility.ofName?

/-- A parameter. -/
def Parameter.read? (around : Nesting) (n : Node) : Option Parameter := do
  let fields ← Record.fields? ["name", "type"] n
  return {
    name := ← Record.text fields "name"
    type := ← Record.required fields "type" (TypeName.read? (around + 1)) }

/-- The fields of a member. -/
def Member.fieldNames : List FieldName :=
  ["name", "visibility", "is_static", "is_abstract", "is_constructor", "parameters",
    "return_type", { name := "declared_fault_types", aliases := ["faults"] }, "doc_comment",
    "tags", "annotations"]

/-- A member in its surroundings. -/
def Member.read? (around : Nesting) (n : Node) : Option Member := do
  let fields ← Record.fields? Member.fieldNames n
  let metadata ← Metadata.ofFields? (around + 1) fields
  return { metadata with
    name := ← Record.text fields "name"
    visibility := ← Visibility.ofFields? fields
    isStatic := ← Record.flag fields "is_static"
    isAbstract := ← Record.flag fields "is_abstract"
    isConstructor := ← Record.flag fields "is_constructor"
    parameters := ← Record.listOf fields "parameters" (Parameter.read? (around + 2))
    returnType := ← Record.optional fields "return_type" (TypeName.read? (around + 1))
    faults := ← Record.listOf fields "declared_fault_types" (TypeName.read? (around + 2)) }

/-- The fields of a class. -/
def Class.fieldNames : List FieldName :=
  ["qualified_name", "visibility", "is_abstract", "is_interface", "implements", "supertypes",
    "doc_comment", "tags", "annotations", "members"]

/-- A class in its surroundings. -/
def Class.read? (around : Nesting) (n : Node) : Option Class := do
  let fields ← Record.fields? Class.fieldNames n
  let metadata ← Metadata.ofFields? (around + 1) fields
  return { metadata with
    qualifiedName := ← Record.text fields "qualified_name"
    visibility := ← Visibility.ofFields? fields
    isAbstract := ← Record.flag fields "is_abstract"
    isInterface := ← Record.flag fields "is_interface"
    interfaces := ← Record.listOf fields "implements" Node.text?
    supertypes := ← Record.listOf fields "supertypes" Node.text?
    members := ← Record.listOf fields "members" (Member.read? (around + 2)) }

/-- A source tree in its surroundings: a record with a list of classes. -/
def Tree.readIn? (around : Nesting) (n : Node) : Option Tree := do
  let fields ← Record.fields? ["classes"] n
  return .ofClasses (← Record.listOf fields "classes" (Class.read? (around + 2)))

/-- The source tree of a document. -/
def Tree.read? (n : Node) : Option Tree := Tree.readIn? 0 n

/-- The source tree of a value in memory. -/
def Tree.ofData? (v : Json) : Option Tree := Tree.readIn? .unlimited (Node.ofJson v)

end ComponentGen.Source

import ComponentGen.Source.Tree

/-!
# Writing source trees

Declarations as JSON values.  All fields are written, except for comments and return types that
are missing.
-/

namespace ComponentGen.Source

/-- The name of a visibility. -/
def Visibility.text : Visibility → String
  | .isPublic => "public"
  | .nonPublic => "non-public"

/-- A type as an object. -/
def TypeName.toJson (t : TypeName) : Json :=
  .object [("name", .text t.name), ("resolved", .bool t.resolved)]

/-- A tag as an object. -/
def Tag.toJson (t : Tag) : Json := .object [("name", .text t.name), ("value", .text t.value)]

namespace AnnotationValue

mutual

/-- An annotation value as the value that it is read from. -/
def toJson : AnnotationValue → Json
  | .bool b => .bool b
  | .int n => .int n
  | .float x => .float x
  | .text s => .text s
  | .list items => .array (toItems items)
  | .nested values => .object (toFields values)

/-- Annotation values as the items of an array. -/
def toItems : List AnnotationValue → List Json
  | [] => []
  | v :: rest => toJson v :: toItems rest

/-- Named annotation values as the fields of an object. -/
def toFields : List (String × AnnotationValue) → List (String × Json)
  | [] => []
  | (name, v) :: rest => (name, toJson v) :: toFields rest

end

end AnnotationValue

/-- The values of an annotation as an object. -/
def valuesToJson (values : AnnotationValues) : Json := .object (AnnotationValue.toFields values)

/-- The fields in which a declaration says something about itself. -/
def Metadata.toFields (m : Metadata) : List (String × Json) :=
  Json.optionalField "doc_comment" m.doc .text ++
    [("tags", .array (m.tags.map Tag.toJson)),
      ("annotations", .object (m.annotations.map fun entry => (entry.1, valuesToJson entry.2)))]

/-- A parameter as an object. -/
def Parameter.toJson (p : Parameter) : Json :=
  .object [("name", .text p.name), ("type", p.type.toJson)]

/-- A member as an object. -/
def Member.toJson (m : Member) : Json :=
  .object <|
    [("name", .text m.name), ("visibility", .text m.visibility.text),
      ("is_static", .bool m.isStatic), ("is_abstract", .bool m.isAbstract),
      ("is_constructor", .bool m.isConstructor),
      ("parameters", .array (m.parameters.map Parameter.toJson))] ++
    Json.optionalField "return_type" m.returnType TypeName.toJson ++
    [("declared_fault_types", .array (m.faults.map TypeName.toJson))] ++ m.toMetadata.toFields

/-- A class as an object. -/
def Class.toJson (c : Class) : Json :=
  .object <|
    [("qualified_name", .text c.qualifiedName), ("visibility", .text c.visibility.text),
      ("is_abstract", .bool c.isAbstract), ("is_interface", .bool c.isInterface),
      ("implements", .array (c.interfaces.map .text)),
      ("supertypes", .array (c.supertypes.map .text))] ++
    c.toMetadata.toFields ++ [("members", .array (c.members.map Member.toJson))]

/-- A source tree as an object. -/
def Tree.toJson (t : Tree) : Json := .object [("classes", .array (t.classes.map Class.toJson))]

/-- A source tree as a value in memory. -/
def Tree.toData (t : Tree) : Json := t.toJson.data

end ComponentGen.Source

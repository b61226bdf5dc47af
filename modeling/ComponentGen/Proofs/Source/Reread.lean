import ComponentGen.Proofs.Source.Metadata
import ComponentGen.Proofs.Source.Tree

/-!
# Trees written and read again

A tree is read back from the value that it is written as: all fields of its classes and members,
the types with whether they were found, the tags and the annotation values with their kinds.  And
whatever a tree was read from, writing it and reading it again gives the same tree, so that other
names of fields and visibilities, types given by their names alone and fields left out are settled
once and for all.
-/

namespace ComponentGen.Source

open Record

/-! ## Parts of declarations -/

theorem TypeName.read?_ofJson (t : TypeName) :
    TypeName.read? .unlimited (Node.ofJson t.toJson) = some t := by
  simp [TypeName.read?, TypeName.toJson, TypeName.ofJson?, single?]

theorem Visibility.ofName?_text (v : Visibility) : Visibility.ofName? v.text = some v := by
  cases v <;> rfl

theorem Visibility.ofFields?_of_holds {v : Visibility} {fields : List (String × Json)}
    {given : RecordFields} (holds : Holds fields given)
    (written : fields.lookup "visibility" = some (.text v.text) :=
      by simp [List.lookup_append, List.lookup_cons]) :
    Visibility.ofFields? given = some v :=
  holds.withDefault (v := .text v.text) v.ofName?_text written

theorem Parameter.read?_ofJson (p : Parameter) :
    Parameter.read? .unlimited (Node.ofJson p.toJson) = some p := by
  obtain ⟨given, read, holds⟩ := @exists_fields?_ofJson ["name", "type"] _ p.toJson rfl
    (Json.keyed_self _) (by decide) (by decide)
  have name : text given "name" = some p.name := holds.text
  have type : required given "type" (TypeName.read? .unlimited) = some p.type :=
    holds.required p.type.read?_ofJson
  rw [Parameter.read?]
  apply bind_eq_some read
  apply bind_eq_some name
  apply bind_eq_some type
  rfl

/-! ## Members -/

/-- A member with annotations as they are kept in memory. -/
def Member.IsProper (m : Member) : Prop := m.toMetadata.IsProper

theorem Member.read?_ofJson {m : Member} (proper : m.IsProper) :
    Member.read? .unlimited (Node.ofJson m.toJson) = some m := by
  obtain ⟨given, read, holds⟩ := @exists_fields?_ofJson Member.fieldNames _ m.toJson rfl
    (Json.keyed_self _ |>.append (Json.keyed_optionalField ..) |>.append (Json.keyed_self _)
      |>.append ((Json.keyed_optionalField ..).append (Json.keyed_self _)))
    (by decide) (by decide)
  have metadata : Metadata.ofFields? .unlimited given = some m.toMetadata :=
    Metadata.ofFields?_of_holds proper holds
  have name : text given "name" = some m.name := holds.text
  have visibility : Visibility.ofFields? given = some m.visibility :=
    Visibility.ofFields?_of_holds holds
  have isStatic : flag given "is_static" = some m.isStatic := holds.flag
  have isAbstract : flag given "is_abstract" = some m.isAbstract := holds.flag
  have isConstructor : flag given "is_constructor" = some m.isConstructor := holds.flag
  have parameters : listOf given "parameters" (Parameter.read? .unlimited) = some m.parameters :=
    holds.listOf fun p _ => p.read?_ofJson
  have returnType : optional given "return_type" (TypeName.read? .unlimited) = some m.returnType :=
    holds.optional fun t _ => ⟨t.read?_ofJson, Json.noConfusion⟩
  have faults : listOf given "declared_fault_types" (TypeName.read? .unlimited) = some m.faults :=
    holds.listOf fun t _ => t.read?_ofJson
  rw [Member.read?]
  apply bind_eq_some read
  apply bind_eq_some metadata
  apply bind_eq_some name
  apply bind_eq_some visibility
  apply bind_eq_some isStatic
  apply bind_eq_some isAbstract
  apply bind_eq_some isConstructor
  apply bind_eq_some parameters
  apply bind_eq_some returnType
  apply bind_eq_some faults
  rfl

theorem Member.isKept_toJson {m : Member} (proper : m.IsProper) : m.toJson.IsKept := by
  have types (t : TypeName) : t.toJson.IsKept := by simp [TypeName.toJson]
  have parameters (p : Parameter) : p.toJson.IsKept := by simp [Parameter.toJson, types]
  have returnType := @Json.isKept_of_mem_optionalField _ "return_type" m.returnType TypeName.toJson
    fun t _ => types t
  rw [Member.toJson, Json.isKept_object_iff, List.forall_mem_append, List.forall_mem_append,
    List.forall_mem_append]
  exact ⟨⟨⟨by simp [parameters], returnType⟩, by simp [types]⟩, proper.isKept_toFields⟩

theorem Member.isProper_of_read? {n : Node} (kept : n.IsKept) {m : Member}
    (reads : Member.read? .unlimited n = some m) : m.IsProper := by
  simp only [Member.read?, Option.bind_eq_bind, Option.bind_eq_some_iff, Option.pure_def,
    Option.some.injEq] at reads
  rcases reads with ⟨given, fields, metadata, ofFields, _, _, _, _, _, _, _, _, _, _, _, _, _, _, _,
    _, rfl⟩
  exact Metadata.isProper_of_ofFields? (fields?_isKept kept fields) ofFields

/-! ## Classes -/

/-- A class with annotations as they are kept in memory, on itself and on its members. -/
structure Class.IsProper (c : Class) : Prop where
  metadata : c.toMetadata.IsProper
  members : ∀ m ∈ c.members, m.IsProper

theorem Class.read?_ofJson {c : Class} (proper : c.IsProper) :
    Class.read? .unlimited (Node.ofJson c.toJson) = some c := by
  obtain ⟨given, read, holds⟩ := @exists_fields?_ofJson Class.fieldNames _ c.toJson rfl
    (Json.keyed_self _
      |>.append ((Json.keyed_optionalField ..).append (Json.keyed_self _))
      |>.append (Json.keyed_self _))
    (by decide) (by decide)
  have metadata : Metadata.ofFields? .unlimited given = some c.toMetadata :=
    Metadata.ofFields?_of_holds proper.metadata holds
  have qualifiedName : text given "qualified_name" = some c.qualifiedName := holds.text
  have visibility : Visibility.ofFields? given = some c.visibility :=
    Visibility.ofFields?_of_holds holds
  have isAbstract : flag given "is_abstract" = some c.isAbstract := holds.flag
  have isInterface : flag given "is_interface" = some c.isInterface := holds.flag
  have interfaces : listOf given "implements" Node.text? = some c.interfaces :=
    holds.texts
  have supertypes : listOf given "supertypes" Node.text? = some c.supertypes :=
    holds.texts
  have members : listOf given "members" (Member.read? .unlimited) = some c.members :=
    holds.listOf fun m member => Member.read?_ofJson (proper.members m member)
  rw [Class.read?]
  apply bind_eq_some read
  apply bind_eq_some metadata
  apply bind_eq_some qualifiedName
  apply bind_eq_some visibility
  apply bind_eq_some isAbstract
  apply bind_eq_some isInterface
  apply bind_eq_some interfaces
  apply bind_eq_some supertypes
  apply bind_eq_some members
  rfl

theorem Class.IsProper.isKept_toJson {c : Class} (proper : c.IsProper) : c.toJson.IsKept := by
  have metadata := proper.metadata.isKept_toFields
  have members : ∀ m ∈ c.members, m.toJson.IsKept := fun m member =>
    Member.isKept_toJson (proper.members m member)
  rw [Class.toJson, Json.isKept_object_iff, List.forall_mem_append, List.forall_mem_append]
  exact ⟨⟨by simp, metadata⟩, by simpa using members⟩

theorem Class.isProper_of_read? {n : Node} (kept : n.IsKept) {c : Class}
    (reads : Class.read? .unlimited n = some c) : c.IsProper := by
  simp only [Class.read?, Option.bind_eq_bind, Option.bind_eq_some_iff, Option.pure_def,
    Option.some.injEq] at reads
  rcases reads with ⟨given, fields, metadata, ofFields, _, _, _, _, _, _, _, _, _, _, _, _, members,
    list, rfl⟩
  have keptFields := fields?_isKept kept fields
  refine ⟨Metadata.isProper_of_ofFields? keptFields ofFields, fun m member => ?_⟩
  rcases exists_of_mem_listOf keptFields list member with ⟨node, kept, step⟩
  exact Member.isProper_of_read? kept step

/-! ## Trees -/

namespace Tree

/-- A tree with annotations as they are kept in memory. -/
def IsProper (t : Tree) : Prop := ∀ c ∈ t.classes, c.IsProper

theorem readIn?_ofJson {t : Tree} (proper : t.IsProper) :
    Tree.readIn? .unlimited (Node.ofJson t.toJson) = some t := by
  obtain ⟨given, read, holds⟩ := @exists_fields?_ofJson ["classes"] _ t.toJson rfl
    (Json.keyed_self _) (by decide) (by decide)
  have classes : listOf given "classes" (Class.read? .unlimited) = some t.classes :=
    holds.listOf fun c member => Class.read?_ofJson (proper c member)
  rw [Tree.readIn?]
  apply bind_eq_some read
  apply bind_eq_some classes
  rw [ofClasses_classes]
  rfl

theorem isProper_of_readIn? {n : Node} (kept : n.IsKept) {t : Tree}
    (reads : Tree.readIn? .unlimited n = some t) : t.IsProper := by
  simp only [Tree.readIn?, Option.bind_eq_bind, Option.bind_eq_some_iff, Option.pure_def,
    Option.some.injEq] at reads
  rcases reads with ⟨given, fields, classes, list, rfl⟩
  intro c member
  have listed : c ∈ classes := (ofClasses_perm classes).mem_iff.mp member
  rcases exists_of_mem_listOf (fields?_isKept kept fields) list listed with ⟨node, kept, step⟩
  exact Class.isProper_of_read? kept step

theorem isKept_toJson {t : Tree} (proper : t.IsProper) : t.toJson.IsKept := by
  simp only [toJson, Json.isKept_object_iff, List.forall_mem_singleton, Json.isKept_array_iff,
    List.forall_mem_map]
  exact fun c member => (proper c member).isKept_toJson

/-- A tree with finite numbers in its annotations is read back, from the value it is written as, as
it was.  What a value is read as is such a tree, so reading what it is written as changes nothing,
whichever names the value had for fields and visibilities and whatever it left out. -/
theorem ofData?_toData :
    (∀ t : Tree, t.IsProper → Tree.ofData? t.toData = some t) ∧
      ∀ (v : Json) (t : Tree), v.IsKept → Tree.ofData? v = some t →
        t.IsProper ∧ Tree.ofData? t.toData = some t := by
  have again (t : Tree) (proper : t.IsProper) : Tree.ofData? t.toData = some t := by
    rw [Tree.ofData?, Tree.toData, (isKept_toJson proper).data_eq_self, readIn?_ofJson proper]
  refine ⟨again, fun v t kept read => ?_⟩
  have proper := isProper_of_readIn? ⟨v, kept, rfl⟩ read
  exact ⟨proper, again t proper⟩

/-! ### A service told in short -/

/-- A service with a type by its name alone, other names of a field and of a visibility, most fields
left out, and annotation values of all kinds. -/
def shortOrders : Json :=
  .object [("classes", .array [.object [
    ("qualified_name", .text "shop.Orders"),
    ("annotations", .object [
      ("Service", .object [
        ("limits", .array [.int 3, .float (.finite false 5 (-1)), .array [.bool true]]),
        ("area", .object [("name", .text "sales"), ("code", .int 7)])])]),
    ("members", .array [.object [
      ("name", .text "place"),
      ("visibility", .text "package"),
      ("return_type", .text "shop.Order"),
      ("faults", .array [.text "shop.SoldOut",
        .object [("name", .text "Unknown"), ("resolved", .bool false)]])]])]])]

/-- The service in full. -/
def orders : Class where
  qualifiedName := "shop.Orders"
  annotations :=
    [("Service",
      [("area", .nested [("code", .int 7), ("name", .text "sales")]),
        ("limits", .list [.int 3, .float (.finite false 5 (-1)), .list [.bool true]])])]
  members :=
    [{ name := "place"
       visibility := .nonPublic
       returnType := some { name := "shop.Order" }
       faults := [{ name := "shop.SoldOut" }, { name := "Unknown", resolved := false }] }]

theorem ofData?_toData_orders :
    shortOrders.IsKept ∧ Tree.ofData? shortOrders = some (ofClasses [orders]) ∧
      (ofClasses [orders]).IsProper ∧
      Tree.ofData? (ofClasses [orders]).toData = some (ofClasses [orders]) := by
  have kept : shortOrders.IsKept := by
    simp [shortOrders, Number.fitsWord64, Number.Binary64.isFinite]
  have read : Tree.ofData? shortOrders = some (ofClasses [orders]) := rfl
  have proper := (ofData?_toData.2 shortOrders _ kept read).1
  exact ⟨kept, read, proper, ofData?_toData.1 _ proper⟩

end Tree

end ComponentGen.Source

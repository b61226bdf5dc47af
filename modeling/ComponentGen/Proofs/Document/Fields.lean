import ComponentGen.Document.Fields
import ComponentGen.Proofs.Data.Shown

/-!
# Documents read back from their data

A component is read back, with all its services, from every node that shows the object it is
written as.  What is not set is not written, and what is not written is read as not set; the
keys of every record are fields of the record, and no two of them are the same.  Version numbers
have to fit 32 bits, since no others are read.  Where anything may stand, such a node is read as
the object itself.
-/

namespace ComponentGen

open Number

namespace Json

variable {α : Type}

/-- Every value of the fields is given, and every name is a word. -/
def AllGiven (fields : List (String × Json)) : Prop :=
  ∀ f ∈ fields, IsWord f.1 ∧ f.2.IsGiven IsWord

theorem AllGiven.isGiven {fields : List (String × Json)} (all : AllGiven fields) :
    (object fields).IsGiven IsWord :=
  .object (fun f member => (all f member).1) fun f member => (all f member).2

theorem AllGiven.nil : AllGiven [] := fun _ member => nomatch member

theorem AllGiven.cons {name : String} {v : Json} {rest : List (String × Json)}
    (given : v.IsGiven IsWord) (others : AllGiven rest)
    (word : IsWord name := by decide) : AllGiven ((name, v) :: rest) := by
  intro f member
  rcases List.mem_cons.mp member with rfl | member
  · exact ⟨word, given⟩
  · exact others f member

theorem AllGiven.append {fields more : List (String × Json)} (first : AllGiven fields)
    (second : AllGiven more) : AllGiven (fields ++ more) := by
  intro f member
  rcases List.mem_append.mp member with here | there
  · exact first f here
  · exact second f there

theorem allGiven_text {name text : String} (word : IsWord name := by decide) :
    AllGiven [(name, .text text)] :=
  .cons (.text text) .nil word

theorem allGiven_optionalField {name : String} {value : Option α} {write : α → Json}
    (given : ∀ v ∈ value, (write v).IsGiven IsWord)
    (word : IsWord name := by decide) :
    AllGiven (optionalField name value write) := by
  cases value with
  | none => exact .nil
  | some v => exact .cons (given v rfl) .nil word

theorem allGiven_text? {name : String} {value : Option String}
    (word : IsWord name := by decide) : AllGiven (optionalField name value .text) :=
  allGiven_optionalField (fun v _ => .text v) word

theorem allGiven_nonEmptyField {name : String} {items : List α} {write : α → Json}
    (given : ∀ item ∈ items, (write item).IsGiven IsWord)
    (word : IsWord name := by decide) :
    AllGiven (nonEmptyField name items write) := by
  rw [nonEmptyField]
  split
  · exact .nil
  · refine .cons (.array fun v within => ?_) .nil word
    obtain ⟨item, belongs, rfl⟩ := List.mem_map.mp within
    exact given item belongs

end Json

namespace Document

open Json Record

/-! ## What is written is given -/

theorem Parameter.isGiven_toJson (p : Parameter) : p.toJson.IsGiven IsWord :=
  AllGiven.isGiven <|
    AllGiven.cons (.text _) (.cons (.text _) allGiven_text)
      |>.append allGiven_text? |>.append allGiven_text?

theorem Fault.isGiven_toJson (f : Fault) : f.toJson.IsGiven IsWord :=
  AllGiven.isGiven <|
    AllGiven.cons (.text _) (.cons (.text _) allGiven_text)
      |>.append allGiven_text? |>.append allGiven_text?

theorem Operation.isGiven_toJson (o : Operation) : o.toJson.IsGiven IsWord :=
  AllGiven.isGiven <|
    AllGiven.append allGiven_text allGiven_text? |>.append allGiven_text
      |>.append allGiven_text? |>.append allGiven_text?
      |>.append allGiven_text? |>.append allGiven_text?
      |>.append (allGiven_nonEmptyField fun p _ => p.isGiven_toJson)
      |>.append (allGiven_nonEmptyField fun p _ => p.isGiven_toJson)
      |>.append (allGiven_nonEmptyField fun f _ => f.isGiven_toJson)

theorem ConfigParam.isGiven_toJson (c : ConfigParam) : c.toJson.IsGiven IsWord :=
  AllGiven.isGiven <|
    AllGiven.append allGiven_text allGiven_text?
      |>.append (.cons (.text _) allGiven_text)
      |>.append allGiven_text? |>.append allGiven_text?
      |>.append (allGiven_optionalField fun b _ => .bool b) |>.append allGiven_text?

theorem fitsInt64_of_fitsInt32 {k : Int} (fits : fitsInt32 k = true) : fitsInt64 k = true := by
  simp only [fitsInt32, fitsInt64, Bool.and_eq_true, decide_eq_true_eq] at fits ⊢
  omega

/-- The version numbers of a deployment fit 32 bits. -/
structure AutoDeploy.HasInt32Versions (a : AutoDeploy) : Prop where
  major : ∀ k ∈ a.majorVersion, fitsInt32 k = true
  minor : ∀ k ∈ a.minorVersion, fitsInt32 k = true

instance (a : AutoDeploy) : Decidable a.HasInt32Versions :=
  decidable_of_iff
    ((∀ k ∈ a.majorVersion, fitsInt32 k = true) ∧ ∀ k ∈ a.minorVersion, fitsInt32 k = true)
    ⟨fun ⟨major, minor⟩ => ⟨major, minor⟩, fun ⟨major, minor⟩ => ⟨major, minor⟩⟩

theorem AutoDeploy.isGiven_toJson {a : AutoDeploy} (fits : a.HasInt32Versions) :
    a.toJson.IsGiven IsWord :=
  AllGiven.isGiven <|
    AllGiven.cons (.text _) allGiven_text
      |>.append (allGiven_optionalField fun k member =>
        .int (fitsInt64_of_fitsInt32 (fits.major k member)))
      |>.append (allGiven_optionalField fun k member =>
        .int (fitsInt64_of_fitsInt32 (fits.minor k member)))

/-- The version numbers that a service is deployed under fit 32 bits. -/
def Service.HasInt32Versions (s : Service) : Prop := ∀ a ∈ s.autoDeploy, a.HasInt32Versions

instance (s : Service) : Decidable s.HasInt32Versions :=
  inferInstanceAs (Decidable (∀ a ∈ s.autoDeploy, a.HasInt32Versions))

theorem Service.isGiven_toJson {s : Service} (fits : s.HasInt32Versions) :
    s.toJson.IsGiven IsWord :=
  AllGiven.isGiven <|
    AllGiven.cons (.text _) allGiven_text
      |>.append allGiven_text? |>.append allGiven_text?
      |>.append allGiven_text? |>.append allGiven_text?
      |>.append allGiven_text? |>.append allGiven_text?
      |>.append (allGiven_optionalField fun a member => AutoDeploy.isGiven_toJson (fits a member))
      |>.append (allGiven_nonEmptyField fun o _ => o.isGiven_toJson)
      |>.append (allGiven_nonEmptyField fun c _ => c.isGiven_toJson)

/-- The version numbers that services are deployed under fit 32 bits. -/
def Component.HasInt32Versions (c : Component) : Prop := ∀ s ∈ c.services, s.HasInt32Versions

instance (c : Component) : Decidable c.HasInt32Versions :=
  inferInstanceAs (Decidable (∀ s ∈ c.services, s.HasInt32Versions))

/-- A document is written with texts, truth values and numbers under words. -/
theorem Component.isGiven_toJson {c : Component} (fits : c.HasInt32Versions) :
    c.toJson.IsGiven IsWord :=
  AllGiven.isGiven <|
    AllGiven.append allGiven_text? allGiven_text? |>.append allGiven_text?
      |>.append allGiven_text? |>.append allGiven_text?
      |>.append (allGiven_nonEmptyField fun s member => Service.isGiven_toJson (fits s member))

/-! ## What is shown is read -/

theorem Parameter.read?_of_shows (p : Parameter) {n : Node}
    (shown : Shows p.toJson n) : Parameter.read? n = some p := by
  obtain ⟨given, read, gives⟩ := @exists_fields?_of_shows
    ["name", "type", "title", "hint", "description"] _ n shown
    (keyed_self _ |>.append (keyed_optionalField ..) |>.append (keyed_optionalField ..))
    (by decide) (by decide)
  have name : text given "name" = some p.name := gives.text
  have type : text given "type" = some p.type := gives.text
  have title : text given "title" = some p.title := gives.text
  have hint : text? given "hint" = some p.hint := gives.text?
  have description : text? given "description" = some p.description := gives.text?
  rw [Parameter.read?]
  apply bind_eq_some read
  apply bind_eq_some name
  apply bind_eq_some type
  apply bind_eq_some title
  apply bind_eq_some hint
  apply bind_eq_some description
  rfl

theorem Fault.read?_of_shows (f : Fault) {n : Node}
    (shown : Shows f.toJson n) : Fault.read? n = some f := by
  obtain ⟨given, read, gives⟩ := @exists_fields?_of_shows
    ["name", "type", "title", "hint", "description"] _ n shown
    (keyed_self _ |>.append (keyed_optionalField ..) |>.append (keyed_optionalField ..))
    (by decide) (by decide)
  have name : text given "name" = some f.name := gives.text
  have type : text given "type" = some f.type := gives.text
  have title : text given "title" = some f.title := gives.text
  have hint : text? given "hint" = some f.hint := gives.text?
  have description : text? given "description" = some f.description := gives.text?
  rw [Fault.read?]
  apply bind_eq_some read
  apply bind_eq_some name
  apply bind_eq_some type
  apply bind_eq_some title
  apply bind_eq_some hint
  apply bind_eq_some description
  rfl

theorem Operation.read?_of_shows (o : Operation) {n : Node}
    (shown : Shows o.toJson n) : Operation.read? n = some o := by
  obtain ⟨given, read, gives⟩ := @exists_fields?_of_shows Operation.fieldNames _ n shown
    (keyed_self _ |>.append (keyed_optionalField ..) |>.append (keyed_self _)
      |>.append (keyed_optionalField ..) |>.append (keyed_optionalField ..)
      |>.append (keyed_optionalField ..) |>.append (keyed_optionalField ..)
      |>.append (keyed_nonEmptyField ..) |>.append (keyed_nonEmptyField ..)
      |>.append (keyed_nonEmptyField ..))
    (by decide) (by decide)
  have name : text given "name" = some o.name := gives.text
  have method : text? given "method" = some o.method := gives.text?
  have title : text given "title" = some o.title := gives.text
  have hint : text? given "hint" = some o.hint := gives.text?
  have description : text? given "description" = some o.description := gives.text?
  have smallIcon : text? given "smallIcon" = some o.smallIcon := gives.text?
  have largeIcon : text? given "largeIcon" = some o.largeIcon := gives.text?
  have inputs : listOf given "inputs" Parameter.read? = some o.inputs :=
    gives.listOf (fun p _ _ => p.read?_of_shows)
  have outputs : listOf given "outputs" Parameter.read? = some o.outputs :=
    gives.listOf (fun p _ _ => p.read?_of_shows)
  have faults : listOf given "faults" Fault.read? = some o.faults :=
    gives.listOf (fun f _ _ => f.read?_of_shows)
  rw [Operation.read?]
  apply bind_eq_some read
  apply bind_eq_some name
  apply bind_eq_some method
  apply bind_eq_some title
  apply bind_eq_some hint
  apply bind_eq_some description
  apply bind_eq_some smallIcon
  apply bind_eq_some largeIcon
  apply bind_eq_some inputs
  apply bind_eq_some outputs
  apply bind_eq_some faults
  rfl

theorem ConfigParam.read?_of_shows (c : ConfigParam) {n : Node}
    (shown : Shows c.toJson n) : ConfigParam.read? n = some c := by
  obtain ⟨given, read, gives⟩ := @exists_fields?_of_shows ConfigParam.fieldNames _ n shown
    (keyed_self _ |>.append (keyed_optionalField ..) |>.append (keyed_self _)
      |>.append (keyed_optionalField ..) |>.append (keyed_optionalField ..)
      |>.append (keyed_optionalField ..) |>.append (keyed_optionalField ..))
    (by decide) (by decide)
  have name : text given "name" = some c.name := gives.text
  have property : text? given "property" = some c.property := gives.text?
  have type : text given "type" = some c.type := gives.text
  have title : text given "title" = some c.title := gives.text
  have hint : text? given "hint" = some c.hint := gives.text?
  have description : text? given "description" = some c.description := gives.text?
  have required : optional given "required" Node.bool? = some c.required :=
    gives.optional (fun _ _ _ => Shows.bool?)
  have defaultValue : text? given "defaultValue" = some c.defaultValue := gives.text?
  rw [ConfigParam.read?]
  apply bind_eq_some read
  apply bind_eq_some name
  apply bind_eq_some property
  apply bind_eq_some type
  apply bind_eq_some title
  apply bind_eq_some hint
  apply bind_eq_some description
  apply bind_eq_some required
  apply bind_eq_some defaultValue
  rfl

theorem AutoDeploy.read?_of_shows (a : AutoDeploy) (fits : a.HasInt32Versions) {n : Node}
    (shown : Shows a.toJson n) : AutoDeploy.read? n = some a := by
  obtain ⟨given, read, gives⟩ := @exists_fields?_of_shows
    ["serviceId", "categoryId", "majorVersion", "minorVersion"] _ n shown
    (keyed_self _ |>.append (keyed_optionalField ..) |>.append (keyed_optionalField ..))
    (by decide) (by decide)
  have serviceId : text given "serviceId" = some a.serviceId := gives.text
  have categoryId : text given "categoryId" = some a.categoryId := gives.text
  have majorVersion : optional given "majorVersion" Node.int32? = some a.majorVersion :=
    gives.optional (fun k member _ => Shows.int32? (fits.major k member))
  have minorVersion : optional given "minorVersion" Node.int32? = some a.minorVersion :=
    gives.optional (fun k member _ => Shows.int32? (fits.minor k member))
  rw [AutoDeploy.read?]
  apply bind_eq_some read
  apply bind_eq_some serviceId
  apply bind_eq_some categoryId
  apply bind_eq_some majorVersion
  apply bind_eq_some minorVersion
  rfl

theorem Service.read?_of_shows (s : Service) (fits : s.HasInt32Versions) {n : Node}
    (shown : Shows s.toJson n) : Service.read? n = some s := by
  obtain ⟨given, read, gives⟩ := @exists_fields?_of_shows Service.fieldNames _ n shown
    (keyed_self _ |>.append (keyed_optionalField ..) |>.append (keyed_optionalField ..)
      |>.append (keyed_optionalField ..) |>.append (keyed_optionalField ..)
      |>.append (keyed_optionalField ..) |>.append (keyed_optionalField ..)
      |>.append (keyed_optionalField ..) |>.append (keyed_nonEmptyField ..)
      |>.append (keyed_nonEmptyField ..))
    (by decide) (by decide)
  have name : text given "name" = some s.name := gives.text
  have implementationClass :
      text given "implementationClass" = some s.implementationClass := gives.text
  have smallIcon : text? given "smallIcon" = some s.smallIcon := gives.text?
  have largeIcon : text? given "largeIcon" = some s.largeIcon := gives.text?
  have hint : text? given "hint" = some s.hint := gives.text?
  have description : text? given "description" = some s.description := gives.text?
  have factoryMethod : text? given "factoryMethod" = some s.factoryMethod := gives.text?
  have requestProcessingStrategy :
      text? given "requestProcessingStrategy" = some s.requestProcessingStrategy := gives.text?
  have autoDeploy : optional given "autoDeploy" AutoDeploy.read? = some s.autoDeploy :=
    gives.optional (fun a member _ => a.read?_of_shows (fits a member))
  have operations : listOf given "operations" Operation.read? = some s.operations :=
    gives.listOf (fun o _ _ => o.read?_of_shows)
  have configParams : listOf given "configParams" ConfigParam.read? = some s.configParams :=
    gives.listOf (fun c _ _ => c.read?_of_shows)
  rw [Service.read?]
  apply bind_eq_some read
  apply bind_eq_some name
  apply bind_eq_some implementationClass
  apply bind_eq_some smallIcon
  apply bind_eq_some largeIcon
  apply bind_eq_some hint
  apply bind_eq_some description
  apply bind_eq_some factoryMethod
  apply bind_eq_some requestProcessingStrategy
  apply bind_eq_some autoDeploy
  apply bind_eq_some operations
  apply bind_eq_some configParams
  rfl

/-- A component is read back from every node that shows the object it is written as. -/
theorem Component.read?_of_shows (c : Component) (fits : c.HasInt32Versions) {n : Node}
    (shown : Shows c.toJson n) : Component.read? n = some c := by
  obtain ⟨given, read, gives⟩ := @exists_fields?_of_shows Component.fieldNames _ n shown
    (keyed_optionalField .. |>.append (keyed_optionalField ..) |>.append (keyed_optionalField ..)
      |>.append (keyed_optionalField ..) |>.append (keyed_optionalField ..)
      |>.append (keyed_nonEmptyField ..))
    (by decide) (by decide)
  have id : text? given "id" = some c.id := gives.text?
  have version : text? given "version" = some c.version := gives.text?
  have bootstrapClass : text? given "bootstrapClass" = some c.bootstrapClass := gives.text?
  have lifecycleClass : text? given "lifecycleClass" = some c.lifecycleClass := gives.text?
  have classPath : text? given "classPath" = some c.classPath := gives.text?
  have services : listOf given "services" Service.read? = some c.services :=
    gives.listOf (fun s member _ => s.read?_of_shows (fits s member))
  rw [Component.read?]
  apply bind_eq_some read
  apply bind_eq_some id
  apply bind_eq_some version
  apply bind_eq_some bootstrapClass
  apply bind_eq_some lifecycleClass
  apply bind_eq_some classPath
  apply bind_eq_some services
  rfl

/-! ## How deep documents nest -/

section Nesting

variable {depth : Nat}

@[simp]
theorem Parameter.nestsWithin_toJson (p : Parameter) : p.toJson.NestsWithin (depth + 1) := by
  simp [Parameter.toJson]

@[simp]
theorem Fault.nestsWithin_toJson (f : Fault) : f.toJson.NestsWithin (depth + 1) := by
  simp [Fault.toJson]

@[simp]
theorem Operation.nestsWithin_toJson (o : Operation) : o.toJson.NestsWithin (depth + 3) := by
  simp [Operation.toJson]

@[simp]
theorem ConfigParam.nestsWithin_toJson (c : ConfigParam) : c.toJson.NestsWithin (depth + 1) := by
  simp [ConfigParam.toJson]

@[simp]
theorem AutoDeploy.nestsWithin_toJson (a : AutoDeploy) : a.toJson.NestsWithin (depth + 1) := by
  simp [AutoDeploy.toJson]

@[simp]
theorem Service.nestsWithin_toJson (s : Service) : s.toJson.NestsWithin (depth + 5) := by
  simp [Service.toJson]

/-- A document nests seven lists and maps: itself, its services, their operations and the
parameters of these. -/
theorem Component.nestsWithin_toJson (c : Component) : c.toJson.NestsWithin (depth + 7) := by
  simp [Component.toJson]

end Nesting

/-- A document is far from the depth that a text may nest to, so where anything may stand it is read
as what it was written from. -/
theorem Component.valueInside?_of_shows (c : Component) {n : Node} (shown : Shows c.toJson n) :
    n.valueInside? 0 = some c.toJson := by
  have isMap : ∃ format entries, n = .map format entries := by
    unfold Component.toJson at shown
    cases shown
    exact ⟨_, _, rfl⟩
  obtain ⟨format, entries, rfl⟩ := isMap
  cases format with
  | json => exact shown.value? (@nestsWithin_toJson 120 c)
  | yaml => exact shown.value? (@nestsWithin_toJson 121 c)

end Document

end ComponentGen

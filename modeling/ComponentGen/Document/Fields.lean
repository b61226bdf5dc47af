import ComponentGen.Data.Record
import ComponentGen.Document.Component

/-!
# Documents as data

Documents are written as JSON values, which are then printed as JSON or YAML text, and read from
the nodes of such texts.  What is not set is not written.
-/

namespace ComponentGen.Document

open Json (optionalField nonEmptyField)

/-! ## Writing -/

/-- A parameter as an object. -/
def Parameter.toJson (p : Parameter) : Json :=
  .object <|
    [("name", .text p.name), ("type", .text p.type), ("title", .text p.title)] ++
    optionalField "hint" p.hint .text ++ optionalField "description" p.description .text

/-- A fault as an object. -/
def Fault.toJson (f : Fault) : Json :=
  .object <|
    [("name", .text f.name), ("type", .text f.type), ("title", .text f.title)] ++
    optionalField "hint" f.hint .text ++ optionalField "description" f.description .text

/-- An operation as an object. -/
def Operation.toJson (o : Operation) : Json :=
  .object <|
    [("name", .text o.name)] ++ optionalField "method" o.method .text ++
    [("title", .text o.title)] ++
    optionalField "hint" o.hint .text ++ optionalField "description" o.description .text ++
    optionalField "smallIcon" o.smallIcon .text ++
    optionalField "largeIcon" o.largeIcon .text ++
    nonEmptyField "inputs" o.inputs Parameter.toJson ++
    nonEmptyField "outputs" o.outputs Parameter.toJson ++
    nonEmptyField "faults" o.faults Fault.toJson

/-- A configuration parameter as an object. -/
def ConfigParam.toJson (c : ConfigParam) : Json :=
  .object <|
    [("name", .text c.name)] ++ optionalField "property" c.property .text ++
    [("type", .text c.type), ("title", .text c.title)] ++
    optionalField "hint" c.hint .text ++ optionalField "description" c.description .text ++
    optionalField "required" c.required .bool ++
    optionalField "defaultValue" c.defaultValue .text

/-- A deployment as an object. -/
def AutoDeploy.toJson (a : AutoDeploy) : Json :=
  .object <|
    [("serviceId", .text a.serviceId), ("categoryId", .text a.categoryId)] ++
    optionalField "majorVersion" a.majorVersion .int ++
    optionalField "minorVersion" a.minorVersion .int

/-- A service as an object. -/
def Service.toJson (s : Service) : Json :=
  .object <|
    [("name", .text s.name), ("implementationClass", .text s.implementationClass)] ++
    optionalField "smallIcon" s.smallIcon .text ++
    optionalField "largeIcon" s.largeIcon .text ++
    optionalField "hint" s.hint .text ++ optionalField "description" s.description .text ++
    optionalField "factoryMethod" s.factoryMethod .text ++
    optionalField "requestProcessingStrategy" s.requestProcessingStrategy .text ++
    optionalField "autoDeploy" s.autoDeploy AutoDeploy.toJson ++
    nonEmptyField "operations" s.operations Operation.toJson ++
    nonEmptyField "configParams" s.configParams ConfigParam.toJson

/-- A component as an object. -/
def Component.toJson (c : Component) : Json :=
  .object <|
    optionalField "id" c.id .text ++ optionalField "version" c.version .text ++
    optionalField "bootstrapClass" c.bootstrapClass .text ++
    optionalField "lifecycleClass" c.lifecycleClass .text ++
    optionalField "classPath" c.classPath .text ++
    nonEmptyField "services" c.services Service.toJson

/-! ## Reading -/

open Record (text text? optional listOf)

/-- A parameter from a node. -/
def Parameter.read? (n : Node) : Option Parameter := do
  let fields ← Record.fields? ["name", "type", "title", "hint", "description"] n
  return {
    name := ← text fields "name"
    type := ← text fields "type"
    title := ← text fields "title"
    hint := ← text? fields "hint"
    description := ← text? fields "description" }

/-- A fault from a node. -/
def Fault.read? (n : Node) : Option Fault := do
  let fields ← Record.fields? ["name", "type", "title", "hint", "description"] n
  return {
    name := ← text fields "name"
    type := ← text fields "type"
    title := ← text fields "title"
    hint := ← text? fields "hint"
    description := ← text? fields "description" }

/-- The fields of an operation. -/
def Operation.fieldNames : List FieldName :=
  ["name", "method", "title", "hint", "description", "smallIcon", "largeIcon", "inputs",
    "outputs", "faults"]

/-- An operation from a node. -/
def Operation.read? (n : Node) : Option Operation := do
  let fields ← Record.fields? Operation.fieldNames n
  return {
    name := ← text fields "name"
    method := ← text? fields "method"
    title := ← text fields "title"
    hint := ← text? fields "hint"
    description := ← text? fields "description"
    smallIcon := ← text? fields "smallIcon"
    largeIcon := ← text? fields "largeIcon"
    inputs := ← listOf fields "inputs" Parameter.read?
    outputs := ← listOf fields "outputs" Parameter.read?
    faults := ← listOf fields "faults" Fault.read? }

/-- The fields of a configuration parameter. -/
def ConfigParam.fieldNames : List FieldName :=
  ["name", "property", "type", "title", "hint", "description", "required", "defaultValue"]

/-- A configuration parameter from a node. -/
def ConfigParam.read? (n : Node) : Option ConfigParam := do
  let fields ← Record.fields? ConfigParam.fieldNames n
  return {
    name := ← text fields "name"
    property := ← text? fields "property"
    type := ← text fields "type"
    title := ← text fields "title"
    hint := ← text? fields "hint"
    description := ← text? fields "description"
    required := ← optional fields "required" Node.bool?
    defaultValue := ← text? fields "defaultValue" }

/-- A deployment from a node. -/
def AutoDeploy.read? (n : Node) : Option AutoDeploy := do
  let fields ← Record.fields? ["serviceId", "categoryId", "majorVersion", "minorVersion"] n
  return {
    serviceId := ← text fields "serviceId"
    categoryId := ← text fields "categoryId"
    majorVersion := ← optional fields "majorVersion" Node.int32?
    minorVersion := ← optional fields "minorVersion" Node.int32? }

/-- The fields of a service. -/
def Service.fieldNames : List FieldName :=
  ["name", "implementationClass", "smallIcon", "largeIcon", "hint", "description",
    "factoryMethod", "requestProcessingStrategy", "autoDeploy", "operations", "configParams"]

/-- A service from a node. -/
def Service.read? (n : Node) : Option Service := do
  let fields ← Record.fields? Service.fieldNames n
  return {
    name := ← text fields "name"
    implementationClass := ← text fields "implementationClass"
    smallIcon := ← text? fields "smallIcon"
    largeIcon := ← text? fields "largeIcon"
    hint := ← text? fields "hint"
    description := ← text? fields "description"
    factoryMethod := ← text? fields "factoryMethod"
    requestProcessingStrategy := ← text? fields "requestProcessingStrategy"
    autoDeploy := ← optional fields "autoDeploy" AutoDeploy.read?
    operations := ← listOf fields "operations" Operation.read?
    configParams := ← listOf fields "configParams" ConfigParam.read? }

/-- The fields of a component. -/
def Component.fieldNames : List FieldName :=
  ["id", "version", "bootstrapClass", "lifecycleClass", "classPath", "services"]

/-- A component from a node. -/
def Component.read? (n : Node) : Option Component := do
  let fields ← Record.fields? Component.fieldNames n
  return {
    id := ← text? fields "id"
    version := ← text? fields "version"
    bootstrapClass := ← text? fields "bootstrapClass"
    lifecycleClass := ← text? fields "lifecycleClass"
    classPath := ← text? fields "classPath"
    services := ← listOf fields "services" Service.read? }

end ComponentGen.Document

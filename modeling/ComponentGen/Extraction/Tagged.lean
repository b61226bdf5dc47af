import ComponentGen.Extraction.Parts

/-!
# Documents from tags

Every class that can be a service is one.  Tags in comments give icons, names and versions; hints
are whole comments.
-/

namespace ComponentGen.Extraction.Tagged

open Document Source

/-- The tag on factory methods. -/
def factoryTag : String := "factoryMethod"

/-- The tag for a small icon. -/
def smallIconTag : String := "smallIcon"

/-- The tag for a large icon. -/
def largeIconTag : String := "largeIcon"

/-- Whether a class is a service. -/
def isService (c : Source.Class) : Bool := c.ineligibility?.isNone

/-- Whether a member is an operation. -/
def isOperation (m : Member) : Bool := hasOperationShape m && !m.hasTag factoryTag

/-- Describes a service. -/
def fillService (c : Source.Class) (s : Service) : Except Failure (Noted Service) := do
  let factory ← factoryMethod c (c.members.filter (·.hasTag factoryTag))
  return {
    value := { fillIdentity c s with
      smallIcon := c.tagValue? smallIconTag
      largeIcon := c.tagValue? largeIconTag
      factoryMethod := factory.value }
    warnings := factory.warnings }

/-- The number that the first tag of a name gives. -/
def version (c : Source.Class) (tag : String) : Noted (Option Int) :=
  notedVersion c tag (((c.tag? tag).map fun t => .ofTag t.value).getD .unset)

/-- Describes the deployment of a service. -/
def fillAutoDeploy (category : Option String) (component : Component) (c : Source.Class)
    (a : AutoDeploy) : Noted AutoDeploy :=
  let major := version c "major"
  let minor := version c "minor"
  { value := { a with
      serviceId := c.simpleName
      categoryId := categoryFor none category component
      majorVersion := major.value
      minorVersion := minor.value }
    warnings := major.warnings ++ minor.warnings }

/-- Describes an operation. -/
def fillOperation (c : Source.Class) (m : Member) (existing : List String) (o : Operation) :
    Except Failure (Noted Operation) := do
  let named ← nameOperation existing c.qualifiedName m (m.tagValue? "operationName")
  return {
    value := { o with
      name := named.name
      method := named.method
      title := named.title
      smallIcon := m.tagValue? smallIconTag
      largeIcon := m.tagValue? largeIconTag
      hint := m.doc }
    warnings := tagWarnings c m }

/-- Describes what a member returns, if it returns anything. -/
def fillOutput? (m : Member) (p : Document.Parameter) : Option Document.Parameter :=
  m.returnType.map fun type =>
    let name := (m.tagValue? "outputParamName").getD defaultOutputName
    { p with
      name
      type := type.qualified
      title := name
      hint := (m.tag? returnTag).map (·.value) }

/-- Describes a configuration parameter, if the member is about a property. -/
def fillConfigParam? (m : Member) (p : ConfigParam) : Option ConfigParam :=
  (fillProperty? m p).map fun named =>
    { named with
      hint := m.doc
      required := if m.hasTag "required" then some true else named.required
      defaultValue := m.tagValue? "default" }

end ComponentGen.Extraction.Tagged

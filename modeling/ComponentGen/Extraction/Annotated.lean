import ComponentGen.Extraction.Parts

/-!
# Documents from annotations

A class is a service if it is annotated as one.  Annotations give icons, names and versions;
comments give descriptions, and their first sentences give hints.
-/

namespace ComponentGen.Extraction.Annotated

open Document Naming Source

/-- What the annotation of a service says about a class. -/
def serviceMarker (c : Source.Class) : ServiceMarker :=
  .ofValues ((c.annotation? serviceAnnotation).getD [])

/-- What the annotation of an operation says about a member. -/
def operationMarker (m : Member) : OperationMarker :=
  ((m.annotation? operationAnnotation).map .ofValues).getD {}

/-- Whether a class is a service.  It is an error to annotate a class that cannot be one. -/
def isService (c : Source.Class) : Except Failure Bool :=
  if c.isAnnotatedWith serviceAnnotation then
    match c.ineligibility? with
    | some reason => .error (.ineligible c.qualifiedName reason)
    | none => .ok true
  else .ok false

/-- Whether a member is an operation. -/
def isOperation (m : Member) : Bool :=
  hasOperationShape m && !m.isAnnotatedWith factoryAnnotation

/-- The constant for how requests are processed, with a warning if there is no such constant. -/
def requestStrategy (c : Source.Class) : Option String → Noted (Option String)
  | none => { value := none }
  | some given =>
      match RequestStrategy.ofText? given with
      | some .none => { value := none }
      | some strategy => { value := some strategy.constant }
      | none =>
          { value := none, warnings := [.unknownRequestStrategy c.qualifiedName given] }

/-- Describes a service. -/
def fillService (c : Source.Class) (s : Service) : Except Failure (Noted Service) := do
  let marker := serviceMarker c
  let factory ← factoryMethod c (c.members.filter (·.isAnnotatedWith factoryAnnotation))
  let strategy := requestStrategy c marker.requestStrategy
  return {
    value := { fillIdentity c s with
      smallIcon := marker.smallIcon
      largeIcon := marker.largeIcon
      factoryMethod := factory.value
      requestProcessingStrategy := strategy.value }
    warnings := factory.warnings ++ strategy.warnings }

/-- Describes the deployment of a service, unless it is not to be deployed by itself. -/
def fillAutoDeploy? (category : Option String) (component : Component) (c : Source.Class)
    (a : AutoDeploy) : Option (Noted AutoDeploy) :=
  let marker := serviceMarker c
  if marker.autoDeploy then
    let major := notedVersion c "major" marker.major
    let minor := notedVersion c "minor" marker.minor
    some {
      value := { a with
        serviceId := c.simpleName
        categoryId := categoryFor marker.categoryId category component
        majorVersion := major.value
        minorVersion := minor.value }
      warnings := major.warnings ++ minor.warnings }
  else none

/-- Describes an operation. -/
def fillOperation (c : Source.Class) (m : Member) (existing : List String) (o : Operation) :
    Except Failure (Noted Operation) := do
  let marker := operationMarker m
  let named ← nameOperation existing c.qualifiedName m marker.name
  return {
    value := { o with
      name := named.name
      method := named.method
      title := named.title
      smallIcon := marker.smallIcon
      largeIcon := marker.largeIcon
      hint := m.doc.map firstSentence
      description := m.doc }
    warnings := tagWarnings c m }

/-- Describes what a member returns, if it returns anything. -/
def fillOutput? (m : Member) (p : Document.Parameter) : Option Document.Parameter :=
  m.returnType.map fun type =>
    let name := (operationMarker m).outputName.getD defaultOutputName
    let described := { p with name, type := type.qualified, title := name }
    match m.tag? returnTag with
    | some tag =>
        { described with hint := some (firstSentence tag.value), description := some tag.value }
    | none => described

/-- Describes a configuration parameter, if the member is about a property. -/
def fillConfigParam? (m : Member) (p : ConfigParam) : Option ConfigParam :=
  (fillProperty? m p).map fun named =>
    let described := { named with hint := m.doc.map firstSentence, description := m.doc }
    match (m.annotation? configParamAnnotation).map ConfigParamMarker.ofValues with
    | some marker =>
        { described with required := some marker.required, defaultValue := marker.defaultValue }
    | none => described

end ComponentGen.Extraction.Annotated

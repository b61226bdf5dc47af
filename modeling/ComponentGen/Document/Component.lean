import ComponentGen.Text.Trim

/-!
# Component documents

What a document says about a component: scalars about the component as a whole and the services
it offers, each with operations and configuration parameters.
-/

namespace ComponentGen.Document

/-- The greatest number of characters in the name of a configuration parameter. -/
def longestConfigName : Nat := 100

/-- A value that an operation takes or gives. -/
structure Parameter where
  name : String := ""
  type : String := ""
  title : String := ""
  hint : Option String := none
  description : Option String := none
  deriving Repr, DecidableEq, Inhabited

/-- A way for an operation to fail. -/
structure Fault where
  name : String := ""
  type : String := ""
  title : String := ""
  hint : Option String := none
  description : Option String := none
  deriving Repr, DecidableEq, Inhabited

/-- An operation of a service.  The method is given when it is not named like the operation. -/
structure Operation where
  name : String := ""
  method : Option String := none
  title : String := ""
  hint : Option String := none
  description : Option String := none
  smallIcon : Option String := none
  largeIcon : Option String := none
  inputs : List Parameter := []
  outputs : List Parameter := []
  faults : List Fault := []
  deriving Repr, DecidableEq, Inhabited

/-- A configuration parameter of a service.  The property is given when its name is too long to
be the name of the parameter. -/
structure ConfigParam where
  name : String := ""
  property : Option String := none
  type : String := ""
  title : String := ""
  hint : Option String := none
  description : Option String := none
  required : Option Bool := none
  defaultValue : Option String := none
  deriving Repr, DecidableEq, Inhabited

/-- Under which category and version a service is deployed by itself. -/
structure AutoDeploy where
  serviceId : String := ""
  categoryId : String := ""
  majorVersion : Option Int := none
  minorVersion : Option Int := none
  deriving Repr, DecidableEq, Inhabited

/-- A service of a component. -/
structure Service where
  name : String := ""
  implementationClass : String := ""
  smallIcon : Option String := none
  largeIcon : Option String := none
  hint : Option String := none
  description : Option String := none
  factoryMethod : Option String := none
  requestProcessingStrategy : Option String := none
  autoDeploy : Option AutoDeploy := none
  operations : List Operation := []
  configParams : List ConfigParam := []
  deriving Repr, DecidableEq, Inhabited

/-- A component. -/
structure Component where
  id : Option String := none
  version : Option String := none
  bootstrapClass : Option String := none
  lifecycleClass : Option String := none
  classPath : Option String := none
  services : List Service := []
  deriving Repr, DecidableEq, Inhabited

/-- The method that carries out an operation. -/
def Operation.dispatchMethod (o : Operation) : String := o.method.getD o.name

/-- The property that a configuration parameter sets. -/
def ConfigParam.propertyName (c : ConfigParam) : String := c.property.getD c.name

/-- Names a parameter after a property.  A name that is too long is cut, and the property is then
kept beside it. -/
def ConfigParam.forProperty (c : ConfigParam) (property : String) : ConfigParam :=
  if longestConfigName < property.length then
    { c with
      property := some property
      name := String.ofList (property.toList.take longestConfigName) }
  else { c with property := none, name := property }

namespace Service

/-- The first operation with a given name. -/
def operation? (s : Service) (name : String) : Option Operation :=
  s.operations.find? (·.name == name)

/-- The first configuration parameter with a given name. -/
def configParam? (s : Service) (name : String) : Option ConfigParam :=
  s.configParams.find? (·.name == name)

end Service

namespace Component

/-- The component without its services. -/
def scalarsOnly (c : Component) : Component := { c with services := [] }

/-- The first service with a given name. -/
def service? (c : Component) (name : String) : Option Service :=
  c.services.find? (·.name == name)

end Component

end ComponentGen.Document

import ComponentGen.Document.Component
import ComponentGen.Number.Numeral
import ComponentGen.Xml.Writer

/-!
# Documents as markup

The elements of a component document.  What is not set has no element or attribute, and there is
no element for an empty list of services, operations or faults.
-/

namespace ComponentGen.Document

open Xml Number

/-- The namespace of component documents. -/
def documentSpace : String := "http://adobe.com/idp/dsc/component/document"

/-- An element for a text, if there is one. -/
def textElement (name : String) (content : Option String) : List Markup :=
  (content.map (Markup.text name)).toList

/-- An attribute, if there is a value for it. -/
def optionalAttribute (name : String) (value : Option String) : List (String × String) :=
  (value.map fun v => (name, v)).toList

/-- An element around others, if there are any. -/
def blockOf (name : String) (children : List Markup) : List Markup :=
  if children.isEmpty then [] else [.block name [] children]

/-- The word for a truth value. -/
def boolText (b : Bool) : String := if b then "true" else "false"

/-- A parameter under the name of its direction. -/
def Parameter.markup (element : String) (p : Parameter) : Markup :=
  .block element [("name", p.name), ("title", p.title), ("type", p.type)]
    (textElement "hint" p.hint ++ textElement "description" p.description)

/-- A fault. -/
def Fault.markup (f : Fault) : Markup :=
  .block "fault" [("name", f.name), ("type", f.type), ("title", f.title)]
    (textElement "hint" f.hint ++ textElement "description" f.description)

/-- An operation. -/
def Operation.markup (o : Operation) : Markup :=
  .block "operation"
    ([("name", o.name)] ++ optionalAttribute "method" o.method ++ [("title", o.title)])
    (textElement "small-icon" o.smallIcon ++ textElement "large-icon" o.largeIcon ++
      textElement "hint" o.hint ++ textElement "description" o.description ++
      o.inputs.map (Parameter.markup "input-parameter") ++
      o.outputs.map (Parameter.markup "output-parameter") ++
      blockOf "faults" (o.faults.map Fault.markup))

/-- A configuration parameter. -/
def ConfigParam.markup (c : ConfigParam) : Markup :=
  .block "config-parameter"
    ([("name", c.name), ("type", c.type), ("title", c.title)] ++
      optionalAttribute "required" (c.required.map boolText) ++
      optionalAttribute "property" c.property)
    (textElement "default-value" c.defaultValue ++ textElement "hint" c.hint ++
      textElement "description" c.description)

/-- A deployment. -/
def AutoDeploy.markup (a : AutoDeploy) : Markup :=
  .empty "auto-deploy"
    ([("service-id", a.serviceId), ("category-id", a.categoryId)] ++
      optionalAttribute "major-version" (a.majorVersion.map intText) ++
      optionalAttribute "minor-version" (a.minorVersion.map intText))

/-- A service. -/
def Service.markup (s : Service) : Markup :=
  .block "service" [("name", s.name)]
    ([.text "implementation-class" s.implementationClass] ++
      textElement "factory-method" s.factoryMethod ++
      (s.autoDeploy.map AutoDeploy.markup).toList ++
      textElement "small-icon" s.smallIcon ++ textElement "large-icon" s.largeIcon ++
      textElement "hint" s.hint ++ textElement "description" s.description ++
      textElement "request-processing-strategy" s.requestProcessingStrategy ++
      s.configParams.map ConfigParam.markup ++
      blockOf "operations" (s.operations.map Operation.markup))

/-- The root element of a document. -/
def Component.markup (c : Component) : Markup :=
  .block "component" [("xmlns", documentSpace)]
    (textElement "component-id" c.id ++ textElement "version" c.version ++
      textElement "bootstrap-class" c.bootstrapClass ++
      textElement "lifecycle-class" c.lifecycleClass ++
      textElement "class-path" c.classPath ++
      blockOf "services" (c.services.map Service.markup))

end ComponentGen.Document

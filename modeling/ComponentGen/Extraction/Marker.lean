import ComponentGen.Number.Numeral
import ComponentGen.Number.Shortest
import ComponentGen.Source.Metadata

/-!
# Annotations of services, operations and configuration parameters

What the annotations say, with their defaults.  A text counts without the blanks around it, and
only if something is left of it.
-/

namespace ComponentGen.Extraction

open Number Text Source

/-- The annotation of services. -/
def serviceAnnotation : String := "Service"

/-- The annotation of operations. -/
def operationAnnotation : String := "Operation"

/-- The annotation of configuration parameters. -/
def configParamAnnotation : String := "ConfigParam"

/-- The annotation of factory methods. -/
def factoryAnnotation : String := "FactoryMethod"

/-! ## Versions -/

/-- A number of a version as it is given: not at all, as a number, or as something else. -/
inductive VersionNumber where
  | unset
  | value (n : Int)
  | malformed (text : String)
  deriving Repr, DecidableEq, Inhabited

namespace VersionNumber

/-- A number, which is not given when it is negative. -/
def ofInt (n : Int) : VersionNumber := if n < 0 then .unset else .value n

/-- The version number that an annotation gives. -/
def ofAnnotationValue : Option AnnotationValue → VersionNumber
  | none => .unset
  | some (.int n) => if fitsInt32 n then ofInt n else .malformed (intText n)
  | some (.text s) =>
      match int32OfText? (trim s) with
      | some n => ofInt n
      | none => .malformed s
  | some (.float x) => .malformed x.text
  | some (.bool b) => .malformed (if b then "true" else "false")
  | some (.list _) => .malformed "[...]"
  | some (.nested _) => .malformed "\x7b...\x7d"

/-- The version number that a tag gives, of either sign. -/
def ofTag (text : String) : VersionNumber :=
  match int32OfText? (trim text) with
  | some n => .value n
  | none => .malformed text

end VersionNumber

/-! ## Annotations -/

/-- A value that is a text. -/
def textValue? (values : AnnotationValues) (key : String) : Option String :=
  match values.get? key with
  | some (.text s) => nonBlank? s
  | _ => none

/-- A value that is true or false. -/
def flagValue (values : AnnotationValues) (key : String) (default : Bool) : Bool :=
  match values.get? key with
  | some (.bool b) => b
  | some (.text s) =>
      match trim s with
      | "true" => true
      | "false" => false
      | _ => default
  | _ => default

/-- What the annotation of a service says. -/
structure ServiceMarker where
  smallIcon : Option String
  largeIcon : Option String
  autoDeploy : Bool
  major : VersionNumber
  minor : VersionNumber
  categoryId : Option String
  requestStrategy : Option String
  deriving Repr, DecidableEq

/-- A number of the version in a service's annotation. -/
def versionPart (values : AnnotationValues) (part : String) : VersionNumber :=
  match values.get? "version" with
  | some (.nested parts) => .ofAnnotationValue (Dictionary.get? parts part)
  | _ => .unset

/-- Reads the annotation of a service. -/
def ServiceMarker.ofValues (values : AnnotationValues) : ServiceMarker where
  smallIcon := textValue? values "smallIcon"
  largeIcon := textValue? values "largeIcon"
  autoDeploy := flagValue values "autoDeploy" true
  major := versionPart values "major"
  minor := versionPart values "minor"
  categoryId := textValue? values "categoryId"
  requestStrategy := textValue? values "requestProcessingStrategy"

/-- What the annotation of an operation says. -/
structure OperationMarker where
  name : Option String := none
  outputName : Option String := none
  smallIcon : Option String := none
  largeIcon : Option String := none
  deriving Repr, DecidableEq

/-- Reads the annotation of an operation. -/
def OperationMarker.ofValues (values : AnnotationValues) : OperationMarker where
  name := textValue? values "name"
  outputName := textValue? values "outputName"
  smallIcon := textValue? values "smallIcon"
  largeIcon := textValue? values "largeIcon"

/-- What the annotation of a configuration parameter says. -/
structure ConfigParamMarker where
  required : Bool
  defaultValue : Option String
  deriving Repr, DecidableEq

/-- Reads the annotation of a configuration parameter. -/
def ConfigParamMarker.ofValues (values : AnnotationValues) : ConfigParamMarker where
  required := flagValue values "required" false
  defaultValue := textValue? values "defaultValue"

/-! ## Request processing -/

/-- How the requests to a service are shared between its instances. -/
inductive RequestStrategy where
  | none
  | singleInstance
  | instancePerRequest
  | pooledInstance
  deriving Repr, DecidableEq

namespace RequestStrategy

/-- The constant that stands for a strategy. -/
def constant : RequestStrategy → String
  | .none => "NONE"
  | .singleInstance => "SINGLE_INSTANCE"
  | .instancePerRequest => "INSTANCE_PER_REQUEST"
  | .pooledInstance => "POOLED_INSTANCE"

/-- All strategies. -/
def all : List RequestStrategy := [.none, .singleInstance, .instancePerRequest, .pooledInstance]

/-- The strategy that a text names, perhaps with the class of the constant in front of it. -/
def ofText? (s : String) : Option RequestStrategy :=
  all.find? (·.constant == lastSegment '.' (trim s))

end RequestStrategy

end ComponentGen.Extraction

import ComponentGen.Document.Component
import ComponentGen.Number.Numeral

/-!
# Validation of documents

The rules that a finished document has to keep.  A rule gives the first of its violations in the
order of the document, and validation gives the violation of the first rule that has one.
-/

namespace ComponentGen.Document

open Text Number

/-- The rules. -/
inductive Rule where
  | requiredFields
  | serviceImplementation
  | uniqueOperationNames
  | configParamNameLength
  | titlesPresent
  deriving Repr, DecidableEq

/-- What can be wrong with a document. -/
inductive Violation where
  | noId
  | noVersion
  | noServiceName (index : Nat)
  | noImplementation (service : String)
  | repeatedOperation (service operation : String)
  | longConfigName (service : String) (length : Nat)
  | untitledOperation (operation service : String)
  | untitledParameter (parameter operation : String)
  | untitledFault (fault operation : String)
  | untitledConfigParam (param service : String)
  deriving Repr, DecidableEq

namespace Violation

/-- The rule that is broken. -/
def rule : Violation → Rule
  | .noId => .requiredFields
  | .noVersion => .requiredFields
  | .noServiceName _ => .serviceImplementation
  | .noImplementation _ => .serviceImplementation
  | .repeatedOperation _ _ => .uniqueOperationNames
  | .longConfigName _ _ => .configParamNameLength
  | .untitledOperation _ _ => .titlesPresent
  | .untitledParameter _ _ => .titlesPresent
  | .untitledFault _ _ => .titlesPresent
  | .untitledConfigParam _ _ => .titlesPresent

/-- What is said about a violation, without its rule. -/
def text : Violation → String
  | .noId => "Component id cannot be empty"
  | .noVersion => "Component version cannot be empty"
  | .noServiceName index => "Service[" ++ intText index ++ "] name cannot be empty"
  | .noImplementation service =>
      "Service '" ++ service ++ "' implementation class cannot be empty"
  | .repeatedOperation service operation =>
      "Service '" ++ service ++ "' declares operation '" ++ operation ++ "' more than once"
  | .longConfigName service length =>
      "Config parameter name in service '" ++ service ++ "' is " ++ intText length ++
        " characters long, maximum is " ++ intText longestConfigName
  | .untitledOperation operation service =>
      "Operation '" ++ operation ++ "' in service '" ++ service ++ "' has no title"
  | .untitledParameter parameter operation =>
      "Parameter '" ++ parameter ++ "' of operation '" ++ operation ++ "' has no title"
  | .untitledFault fault operation =>
      "Fault '" ++ fault ++ "' of operation '" ++ operation ++ "' has no title"
  | .untitledConfigParam param service =>
      "Config parameter '" ++ param ++ "' in service '" ++ service ++ "' has no title"

end Violation

namespace Rule

/-- The name of a rule. -/
def name : Rule → String
  | .requiredFields => "RequiredFields"
  | .serviceImplementation => "ServiceImplementation"
  | .uniqueOperationNames => "UniqueOperationNames"
  | .configParamNameLength => "ConfigParamNameLength"
  | .titlesPresent => "TitlesPresent"

/-- All rules, in the order they are checked in. -/
def all : List Rule :=
  [.requiredFields, .serviceImplementation, .uniqueOperationNames, .configParamNameLength,
    .titlesPresent]

/-- The rule with a given name. -/
def ofName? (name : String) : Option Rule := all.find? (·.name == name)

end Rule

/-- What is said about a violation. -/
def Violation.message (v : Violation) : String := "[" ++ v.rule.name ++ "] " ++ v.text

/-- A violation, if a condition holds. -/
def violationIf (condition : Bool) (v : Violation) : Option Violation :=
  if condition then some v else none

/-- Whether an optional text says nothing. -/
def saysNothing (s : Option String) : Bool := s.all isBlank

/-- The first violation of the services from the one with the given index on. -/
def unnamedServices? (index : Nat) : List Service → Option Violation
  | [] => none
  | s :: rest =>
      (violationIf (isBlank s.name) (.noServiceName index)).or <|
        (violationIf (isBlank s.implementationClass) (.noImplementation s.name)).or <|
          unnamedServices? (index + 1) rest

/-- The first name that has occurred before. -/
def repeatedName? (seen : List String) : List String → Option String
  | [] => none
  | name :: rest => if seen.contains name then some name else repeatedName? (name :: seen) rest

namespace Service

/-- The first operation of a service whose name is used before. -/
def repeatedOperation? (s : Service) : Option Violation :=
  (repeatedName? [] (s.operations.map (·.name))).map (.repeatedOperation s.name)

/-- The first configuration parameter of a service whose name is too long. -/
def longConfigName? (s : Service) : Option Violation :=
  s.configParams.findSome? fun c =>
    violationIf (longestConfigName < c.name.length) (.longConfigName s.name c.name.length)

end Service

/-- The first part of an operation that has no title. -/
def Operation.untitled? (service : String) (o : Operation) : Option Violation :=
  (violationIf (isBlank o.title) (.untitledOperation o.name service)).or <|
    ((o.inputs ++ o.outputs).findSome? fun p =>
      violationIf (isBlank p.title) (.untitledParameter p.name o.name)).or <|
    o.faults.findSome? fun f => violationIf (isBlank f.title) (.untitledFault f.name o.name)

/-- The first part of a service that has no title. -/
def Service.untitled? (s : Service) : Option Violation :=
  (s.operations.findSome? (·.untitled? s.name)).or <|
    s.configParams.findSome? fun c =>
      violationIf (isBlank c.title) (.untitledConfigParam c.name s.name)

/-- The first violation of a rule. -/
def Component.violation? (c : Component) : Rule → Option Violation
  | .requiredFields =>
      (violationIf (saysNothing c.id) .noId).or (violationIf (saysNothing c.version) .noVersion)
  | .serviceImplementation => unnamedServices? 0 c.services
  | .uniqueOperationNames => c.services.findSome? Service.repeatedOperation?
  | .configParamNameLength => c.services.findSome? Service.longConfigName?
  | .titlesPresent => c.services.findSome? Service.untitled?

/-- Checks rules in the order given. -/
def Component.validateWith (rules : List Rule) (c : Component) : Except Violation Unit :=
  match rules.findSome? c.violation? with
  | some v => .error v
  | none => .ok ()

/-- Checks all rules. -/
def Component.validate (c : Component) : Except Violation Unit := c.validateWith Rule.all

end ComponentGen.Document

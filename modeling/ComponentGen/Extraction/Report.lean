import ComponentGen.Source.Declaration

/-!
# Warnings and failures

What can be wrong with the metadata of a source tree.  A warning goes with a value that is left
out; a failure ends the making of a document.
-/

namespace ComponentGen.Extraction

open Source

/-- What is wrong with metadata that is left out. -/
inductive Warning where
  | malformedVersion (className field value : String)
  | malformedTagComment (className member tag value : String)
  | multipleFactoryMethods (className used ignored : String)
  | unknownRequestStrategy (className value : String)
  deriving Repr, DecidableEq

/-- What is said about a warning. -/
def Warning.message : Warning → String
  | .malformedVersion className field value =>
      field ++ " version of service " ++ className ++ " should be an integer, but was \"" ++
        value ++ "\"; the field is omitted"
  | .malformedTagComment className member tag value =>
      "@" ++ tag ++ " tag \"" ++ value ++ "\" on " ++ className ++ "." ++ member ++
        " has no comment after its key and is ignored"
  | .multipleFactoryMethods className used ignored =>
      "Class " ++ className ++ " has more than one factory method; " ++ used ++
        " is used and " ++ ignored ++ " is ignored"
  | .unknownRequestStrategy className value =>
      "Unknown request processing strategy \"" ++ value ++ "\" on service " ++ className ++
        "; the field is omitted"

/-- Why a method cannot make the instances of a service. -/
inductive FactoryViolation where
  | notPublic
  | notStatic
  | isAbstract
  | isConstructor
  | isProperty
  deriving Repr, DecidableEq

/-- The wording of the reason. -/
def FactoryViolation.text : FactoryViolation → String
  | .notPublic => "method is not public"
  | .notStatic => "method is not static"
  | .isAbstract => "method is abstract"
  | .isConstructor => "method is a constructor"
  | .isProperty => "method is a property accessor or mutator"

/-- Why no document can be made. -/
inductive Failure where
  | ineligible (className : String) (reason : Ineligibility)
  | ambiguousName (method className : String)
  | invalidFactory (method className : String) (reason : FactoryViolation)
  deriving Repr, DecidableEq

/-- What is said about a failure. -/
def Failure.message : Failure → String
  | .ineligible className reason =>
      "Class " ++ className ++ " is marked as a service but " ++ reason.text ++
        ". Only public non-abstract classes are supported (exceptions excluded)"
  | .ambiguousName method className =>
      "Could not generate a unique operation name for method " ++ method ++ " in class " ++
        className ++ ", please specify a unique operation name"
  | .invalidFactory method className reason =>
      "Method " ++ method ++ " in class " ++ className ++ " is not a valid factory method: " ++
        reason.text

/-- A value with the warnings that were found on the way to it. -/
structure Noted (α : Type) where
  value : α
  warnings : List Warning := []
  deriving Repr

end ComponentGen.Extraction

import ComponentGen.Extraction.Report

/-!
# Names of operations

Methods may share a name, operations of a service may not.  The first method of a name gives it
to its operation; for later ones a name is made from the parameters.  A name that the author
suggests goes before both, but has to be free as well.
-/

namespace ComponentGen.Extraction

open Naming Source Text

/-- How an operation is named and called. -/
structure OperationName where
  name : String
  method : Option String
  title : String
  deriving Repr, DecidableEq

/-- A parameter as part of a name. -/
def parameterPhrase (p : Source.Parameter) : String :=
  capitalize p.name ++ "As" ++ capitalize p.type.simple

/-- A name for a method that tells its parameters. -/
def synthesizedName (m : Member) : String :=
  m.name ++ "With" ++ String.join (m.parameters.map parameterPhrase)

/-- The name that the operation of a method would like to have, where `existing` are the names
of the operations before it. -/
def candidateName (existing : List String) (m : Member) (suggested : Option String) : String :=
  match suggested.bind nonBlank? with
  | some name => name
  | none => if existing.contains m.name then synthesizedName m else m.name

/-- Names the operation of a method.  The method is kept beside the name when an earlier
operation has the method's name. -/
def nameOperation (existing : List String) (className : String) (m : Member)
    (suggested : Option String) : Except Failure OperationName :=
  let name := candidateName existing m suggested
  if existing.contains name then .error (.ambiguousName m.name className)
  else
    .ok {
      name
      method := if existing.contains m.name then some m.name else none
      title := title name }

end ComponentGen.Extraction

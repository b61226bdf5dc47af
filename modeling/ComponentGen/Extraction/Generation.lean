import ComponentGen.Extraction.Strategy

/-!
# Making documents

A document is made from the classes of a tree one by one.  What a class contributes depends on
the class and on what is known about the component as a whole, but on no other class.
-/

namespace ComponentGen.Extraction

open Document Source

/-- A finished document with the warnings that were found on the way. -/
structure Report where
  component : Component
  warnings : List Warning := []
  deriving Repr, DecidableEq, Inhabited

namespace Strategy

/-- The operation of a member, where `existing` are the names of the operations before it. -/
def operation (s : Strategy) (c : Source.Class) (existing : List String) (m : Member) :
    Except Failure (Noted Operation) :=
  (s.fillOperation c m existing {}).map fun named =>
    { named with value := { named.value with
        inputs := m.parameters.map fun input => fillInput m input {}
        faults := m.faults.map fun type => fillFault m type {}
        outputs := (s.fillOutput? m {}).toList } }

/-- The operations of members that are operations. -/
def operations (s : Strategy) (c : Source.Class) (existing : List String) :
    List Member → Except Failure (List (Noted Operation))
  | [] => .ok []
  | m :: rest => do
      let first ← s.operation c existing m
      let others ← s.operations c (existing ++ [first.value.name]) rest
      return first :: others

/-- The service of a class that is one. -/
def service (s : Strategy) (component : Component) (c : Source.Class) :
    Except Failure (Noted Service) := do
  let described ← s.fillService c {}
  let deployed := s.fillAutoDeploy? component c {}
  let operations ← s.operations c [] (c.members.filter s.isOperation)
  let configParams := (c.members.filter s.isConfigParam).filterMap (s.fillConfigParam? · {})
  return {
    value := { described.value with
      autoDeploy := deployed.map (·.value)
      operations := operations.map (·.value)
      configParams }
    warnings :=
      described.warnings ++ (deployed.map (·.warnings)).getD [] ++
        operations.flatMap (·.warnings) }

/-- What a class contributes to a document: its service, if it is one. -/
def contribution (s : Strategy) (component : Component) (c : Source.Class) :
    Except Failure (Option (Noted Service)) := do
  if ← s.isService c then return some (← s.service component c)
  else return none

/-- What is known about the component as a whole: what an earlier document says, and what the
tree says. -/
def frame (prior : Option Component) (tree : Tree) : Component :=
  fillComponent tree ((prior.map Component.scalarsOnly).getD {})

/-- Makes a document. -/
def generate (s : Strategy) (prior : Option Component) (tree : Tree) : Except Failure Report := do
  let component := frame prior tree
  let contributions ← tree.classes.mapM (s.contribution component)
  let services := contributions.filterMap id
  return {
    component := { component with services := services.map (·.value) }
    warnings := services.flatMap (·.warnings) }

end Strategy

end ComponentGen.Extraction

import ComponentGen.Extraction.Annotated
import ComponentGen.Extraction.Tagged

/-!
# Strategies

Documents are made by one of two strategies, from annotations or from tags.  A strategy says
which classes and members take part and describes the parts of the document for them.
-/

namespace ComponentGen.Extraction

open Document Source Text

/-- Where a document is taken from. -/
inductive StrategyKind where
  | annotations
  | doclets
  deriving Repr, DecidableEq, Inhabited

namespace StrategyKind

/-- The name of a strategy. -/
def name : StrategyKind → String
  | .annotations => "annotations"
  | .doclets => "doclets"

/-- What a strategy does. -/
def description : StrategyKind → String
  | .annotations =>
      "Services, operations and config parameters declared with " ++
        "@Service/@Operation/@ConfigParam markers"
  | .doclets => "Every public concrete class is a service; metadata comes from javadoc tags"

/-- All strategies. -/
def all : List StrategyKind := [.annotations, .doclets]

/-- The strategy with a given name in any case. -/
def ofName? (s : String) : Option StrategyKind := all.find? (·.name == lowerText (trim s))

/-- What is said about a name that is not the name of a strategy. -/
def invalidMessage (s : String) : String :=
  "Invalid extraction strategy: " ++ s ++ ". Valid options: annotations, doclets"

end StrategyKind

/-- A strategy with the category for services that give none themselves. -/
structure Strategy where
  kind : StrategyKind := .annotations
  category : Option String := none
  deriving Repr, DecidableEq, Inhabited

namespace Strategy

/-- Whether a class is a service. -/
def isService (s : Strategy) (c : Source.Class) : Except Failure Bool :=
  match s.kind with
  | .annotations => Annotated.isService c
  | .doclets => .ok (Tagged.isService c)

/-- Whether a member is an operation. -/
def isOperation (s : Strategy) (m : Member) : Bool :=
  match s.kind with
  | .annotations => Annotated.isOperation m
  | .doclets => Tagged.isOperation m

/-- Whether a member is a configuration parameter. -/
def isConfigParam (_ : Strategy) (m : Member) : Bool := m.isMutator

/-- Describes a service. -/
def fillService (s : Strategy) (c : Source.Class) (node : Service) :
    Except Failure (Noted Service) :=
  match s.kind with
  | .annotations => Annotated.fillService c node
  | .doclets => Tagged.fillService c node

/-- Describes the deployment of a service, if it is to be deployed by itself. -/
def fillAutoDeploy? (s : Strategy) (component : Component) (c : Source.Class) (node : AutoDeploy) :
    Option (Noted AutoDeploy) :=
  match s.kind with
  | .annotations => Annotated.fillAutoDeploy? s.category component c node
  | .doclets => some (Tagged.fillAutoDeploy s.category component c node)

/-- Describes an operation without its inputs, outputs and faults. -/
def fillOperation (s : Strategy) (c : Source.Class) (m : Member) (existing : List String)
    (node : Operation) : Except Failure (Noted Operation) :=
  match s.kind with
  | .annotations => Annotated.fillOperation c m existing node
  | .doclets => Tagged.fillOperation c m existing node

/-- Describes what a member returns, if it returns anything. -/
def fillOutput? (s : Strategy) (m : Member) (node : Document.Parameter) :
    Option Document.Parameter :=
  match s.kind with
  | .annotations => Annotated.fillOutput? m node
  | .doclets => Tagged.fillOutput? m node

/-- Describes a configuration parameter, if the member is about a property. -/
def fillConfigParam? (s : Strategy) (m : Member) (node : ConfigParam) : Option ConfigParam :=
  match s.kind with
  | .annotations => Annotated.fillConfigParam? m node
  | .doclets => Tagged.fillConfigParam? m node

end Strategy

end ComponentGen.Extraction

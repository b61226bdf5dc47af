import ComponentGen.Document.Format
import ComponentGen.Extraction.Strategy
import ComponentGen.Program.LogLevel
import ComponentGen.Text.Dictionary

/-!
# Configuration

What a run is to do.  Defaults give way to variables of the environment, and these to arguments
of the command line.  A variable counts without the blanks around it, and only if something is
left of it; an argument counts as it is.
-/

namespace ComponentGen.Program

open Document Extraction Text

/-- The variables of the environment. -/
abbrev Environment := Dictionary String

/-- The value of a variable, unless it is blank. -/
def Environment.value? (env : Environment) (name : String) : Option String :=
  (env.get? name).bind nonBlank?

/-- The variables that have a meaning. -/
def variableNames : List String :=
  ["DSCGEN_STRATEGY", "DSCGEN_SOURCE", "DSCGEN_COMPONENT_FILE", "DSCGEN_INPUT_FILE",
    "DSCGEN_COMPONENT_ID", "DSCGEN_COMPONENT_VERSION", "DSCGEN_COMPONENT_CATEGORY",
    "DSCGEN_LOG_LEVEL"]

/-- The arguments for making a document. -/
structure GenerateArguments where
  strategy : Option String := none
  source : Option String := none
  input : Option String := none
  output : Option String := none
  componentId : Option String := none
  componentVersion : Option String := none
  category : Option String := none
  format : Format := .xml
  stdout : Bool := false
  deriving Repr, DecidableEq, Inhabited

/-- What a run is to do. -/
structure Config where
  strategy : String := "annotations"
  source : String := "descriptors.json"
  componentFile : String := "component.xml"
  inputFile : Option String := none
  componentId : Option String := none
  componentVersion : Option String := none
  category : Option String := none
  logLevel : String := "info"
  deriving Repr, DecidableEq, Inhabited

/-- What is wrong with a configuration. -/
inductive ConfigFailure where
  | invalidStrategy (name : String)
  | invalidLogLevel (name : String)
  | noComponentFile
  deriving Repr, DecidableEq

/-- What is said about a failure. -/
def ConfigFailure.message : ConfigFailure → String
  | .invalidStrategy name => StrategyKind.invalidMessage name
  | .invalidLogLevel name =>
      "Configuration validation failed: Invalid log level: " ++ name ++
        ". Valid options: trace, debug, info, warn, error"
  | .noComponentFile =>
      "Configuration validation failed: Component file path cannot be empty"

namespace Config

/-- The configuration of an environment. -/
def ofEnvironment (env : Environment) : Config where
  strategy := (env.value? "DSCGEN_STRATEGY").getD "annotations"
  source := (env.value? "DSCGEN_SOURCE").getD "descriptors.json"
  componentFile := (env.value? "DSCGEN_COMPONENT_FILE").getD "component.xml"
  inputFile := env.value? "DSCGEN_INPUT_FILE"
  componentId := env.value? "DSCGEN_COMPONENT_ID"
  componentVersion := env.value? "DSCGEN_COMPONENT_VERSION"
  category := env.value? "DSCGEN_COMPONENT_CATEGORY"
  logLevel := lowerText ((env.value? "DSCGEN_LOG_LEVEL").getD "info")

/-- The configuration with arguments on top of it. -/
def withArguments (c : Config) (args : GenerateArguments) : Config :=
  { c with
    strategy := args.strategy.getD c.strategy
    source := args.source.getD c.source
    componentFile := args.output.getD c.componentFile
    inputFile := args.input.or c.inputFile
    componentId := args.componentId.or c.componentId
    componentVersion := args.componentVersion.or c.componentVersion
    category := args.category.or c.category }

/-- The strategy that is named. -/
def strategyKind (c : Config) : Except ConfigFailure StrategyKind :=
  match StrategyKind.ofName? c.strategy with
  | some kind => .ok kind
  | none => .error (.invalidStrategy c.strategy)

/-- Checks a configuration. -/
def validate (c : Config) : Except ConfigFailure Unit := do
  let _ ← c.strategyKind
  if (LogLevel.ofName? c.logLevel).isNone then throw (.invalidLogLevel c.logLevel)
  if c.componentFile.isEmpty then throw .noComponentFile

/-- Sets what the configuration says about a component. -/
def override (c : Config) (component : Component) : Component :=
  { component with
    id := c.componentId.or component.id
    version := c.componentVersion.or component.version }

/-- The paths that a run with the configuration may follow. -/
def paths (c : Config) : List String := c.source :: c.componentFile :: c.inputFile.toList

/-- The entries of a configuration: their keys, their labels and their values. -/
def entries (c : Config) : List (String × String × Option String) :=
  [("strategy", "Strategy", some c.strategy), ("source", "Source", some c.source),
    ("component_file", "Component File", some c.componentFile),
    ("input_file", "Input File", c.inputFile), ("component_id", "Component Id", c.componentId),
    ("component_version", "Component Version", c.componentVersion),
    ("category", "Category", c.category), ("log_level", "Log Level", some c.logLevel)]

/-- The entries that are set, by their keys. -/
def toDictionary (c : Config) : Dictionary String :=
  .ofEntries (c.entries.filterMap fun entry => entry.2.2.map (entry.1, ·))

/-- A configuration for the eye: one set entry a line. -/
def display (c : Config) : String :=
  "Generator Configuration:\n" ++
    String.join (c.entries.map fun entry =>
      match entry.2.2 with
      | some value => "  " ++ entry.2.1 ++ ": " ++ value ++ "\n"
      | none => "")

end Config

end ComponentGen.Program

import ComponentGen.Document.Prior
import ComponentGen.Document.Validation
import ComponentGen.Program.Arguments
import ComponentGen.Program.Summary
import ComponentGen.Source.Loading

/-!
# Runs

A run loads a source tree and perhaps an earlier document, makes a document, checks it and prints
it or writes it to a file.  A run that fails says why and leaves all files as they were, even if it
has made the directories for a file that it then could not write.
-/

namespace ComponentGen.Program

open Document Extraction Files Source

/-- Why a run fails. -/
inductive RunFailure where
  | configuration (reason : ConfigFailure)
  | source (reason : Source.LoadFailure)
  | prior (path : String) (reason : Document.LoadFailure)
  | generation (reason : Failure)
  | document (reason : Violation)
  | directory (path : String) (reason : FileError)
  | writing (path : String) (reason : FileError)
  deriving Repr, DecidableEq

/-- What a file error adds behind the message that it is part of. -/
def detail (reason : FileError) : String := ": " ++ reason.text

/-- What is said about a failure.  The reason why a file cannot be read is given with the file
and once more by itself. -/
def RunFailure.message : RunFailure → String
  | .configuration reason => "Invalid configuration: " ++ reason.message
  | .source reason =>
      "Failed to load source descriptors: " ++ reason.message ++
        (match reason with
          | .unreadable _ e => detail e
          | _ => "")
  | .prior path reason =>
      "Failed to load existing component document " ++ path ++ ": " ++ reason.message ++
        (match reason with
          | .unreadable _ e => detail e
          | _ => "")
  | .generation reason => "Component generation failed: " ++ reason.message
  | .document reason => "Generated component is invalid: " ++ reason.message
  | .directory path reason => "Failed to create directory " ++ path ++ detail reason
  | .writing path reason => "Failed to write component document " ++ path ++ detail reason

/-- What is known of the component before: an earlier document, if there is one. -/
def priorComponent (store : Store) : Option String → Except RunFailure Component
  | none => .ok {}
  | some path =>
      if store.holds path then
        match Component.load store path with
        | .ok c => .ok c
        | .error reason => .error (.prior path reason)
      else .ok {}

/-- Makes a document and checks it. -/
def makeDocument (store : Store) (config : Config) : Except RunFailure Report := do
  config.validate.mapError .configuration
  let kind ← config.strategyKind.mapError .configuration
  let tree ← (Tree.load store config.source).mapError .source
  let prior ← priorComponent store config.inputFile
  let strategy : Strategy := { kind, category := config.category }
  let report ← (strategy.generate (some (config.override prior)) tree).mapError .generation
  report.component.validate.mapError .document
  return report

/-- What a run acts on: the files, and what it has printed. -/
structure World where
  store : Store
  stdout : String := ""
  deriving Repr, Inhabited

/-- A part of a run.  What it has done before it fails stays done. -/
abbrev Action := EStateM RunFailure World

/-- Carries out a change of the store. -/
def Action.ofChange (failure : FileError → RunFailure) (change : Store.Change Unit) : Action Unit :=
  fun world =>
    match change world.store with
    | .ok _ store => .ok () { world with store }
    | .error reason store => .error (failure reason) { world with store }

/-- Makes the directories on the way to a file. -/
def makeParent (path : String) : Action Unit :=
  match parent? path with
  | none => pure ()
  | some directory => .ofChange (.directory directory) (Store.makeDirectories directory)

/-- Writes a document and makes the directories on the way to it. -/
def putDocument (path text : String) : Action Unit := do
  makeParent path
  .ofChange (.writing path) (Store.write path text)

/-- The store once a document is written to it. -/
def writeDocument (store : Store) (path text : String) : Except RunFailure Store :=
  match putDocument path text { store } with
  | .ok _ world => .ok world.store
  | .error reason _ => .error reason

/-- Prints a text. -/
def printText (text : String) : Action Unit :=
  modify fun world => { world with stdout := world.stdout ++ text }

/-- Puts the text of a document where it goes: to what is printed, or to the file of the
configuration. -/
def deliver (config : Config) (toStdout : Bool) (text : String) : Action Unit :=
  if toStdout then printText text else putDocument config.componentFile text

/-- Makes a document and delivers it. -/
def produce (config : Config) (format : Format) (toStdout : Bool) : Action Report := do
  let report ← ofExcept (makeDocument (← get).store config)
  deliver config toStdout (report.component.render format)
  return report

/-- What a run leaves behind. -/
structure Outcome where
  exitCode : Nat := 0
  stdout : String := ""
  stderr : String := ""
  store : Store
  deriving Repr

/-- Makes a document as the arguments say. -/
def generate (env : Environment) (store : Store) (args : GenerateArguments) (quiet : Bool) :
    Outcome :=
  let config := (Config.ofEnvironment env).withArguments args
  match produce config args.format args.stdout { store } with
  | .error reason world =>
      { exitCode := 1
        stdout := world.stdout
        stderr := "Error: " ++ reason.message ++ "\n"
        store := world.store }
  | .ok report world =>
      { stdout := world.stdout
        stderr :=
          if quiet then ""
          else summary report (if args.stdout then none else some config.componentFile)
        store := world.store }

/-- Carries out a command. -/
def run (env : Environment) (store : Store) (args : Arguments) : Outcome :=
  match args.command with
  | .generate generateArgs => generate env store generateArgs args.quiet
  | .strategies => { stdout := strategyList, store }

/-- How a run logs. -/
def Arguments.logging (args : Arguments) (env : Environment) : Logging :=
  .ofFlags (args.logLevel.or (env.get? "DSCGEN_LOG_LEVEL")) args.verbose args.quiet

end ComponentGen.Program

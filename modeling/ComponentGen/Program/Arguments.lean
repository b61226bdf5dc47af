import ComponentGen.Program.Config

/-!
# Arguments of the command line

An argument is an option, the value of one, or a command.  Options are long with two dashes or
short with one; a value follows its option or is attached to it.  An option that waits for its
value takes the next argument that does not look like an option, and the value is checked when
the next option is known or the arguments end.  Some options may stand in front of the command
as well as behind it.
-/

namespace ComponentGen.Program

open Document Text

/-- Why a run ends with its arguments: they are wrong, or they ask for help. -/
inductive UsageStop where
  | displayHelp
  | displayVersion
  | helpForMissingCommand
  | missingSubcommand
  | invalidSubcommand
  | unknownArgument
  | invalidValue
  | tooManyValues
  | argumentConflict
  deriving Repr, DecidableEq

/-- The exit code of a run that ends with its arguments. -/
def UsageStop.exitCode : UsageStop → Nat
  | .displayHelp => 0
  | .displayVersion => 0
  | _ => 2

/-- What an option is followed by or asks for. -/
inductive OptionKind where
  | flag
  | text
  | path
  | format
  | help
  | version
  deriving Repr, DecidableEq

/-- An option. -/
structure OptionSpec where
  name : String
  short : Option Char := none
  kind : OptionKind
  deriving Repr, DecidableEq

/-- The options that may stand anywhere. -/
def globalOptions : List OptionSpec :=
  [{ name := "log-level", kind := .text }, { name := "verbose", short := some 'v', kind := .flag },
    { name := "quiet", short := some 'q', kind := .flag },
    { name := "help", short := some 'h', kind := .help }]

/-- The options in front of the command. -/
def topOptions : List OptionSpec :=
  globalOptions ++ [{ name := "version", short := some 'V', kind := .version }]

/-- The options of the command that makes a document. -/
def generateOptions : List OptionSpec :=
  globalOptions ++
    [{ name := "strategy", short := some 's', kind := .text }, { name := "source", kind := .path },
      { name := "input", short := some 'i', kind := .path },
      { name := "output", short := some 'o', kind := .path },
      { name := "component-id", kind := .text }, { name := "component-version", kind := .text },
      { name := "category", kind := .text },
      { name := "format", short := some 'f', kind := .format },
      { name := "stdout", kind := .flag }]

/-- The formats that may be asked for. -/
def formatOfArgument? (s : String) : Option Format :=
  [Format.xml, .json, .yaml].find? (·.name == s)

/-- Whether a value is one that an option takes. -/
def OptionKind.takes (kind : OptionKind) (value : String) : Bool :=
  match kind with
  | .path => !value.isEmpty
  | .format => (formatOfArgument? value).isSome
  | _ => true

/-- Whether an option is followed by a value. -/
def OptionKind.isValued : OptionKind → Bool
  | .text | .path | .format => true
  | .flag | .help | .version => false

/-- The options read so far with their values, and an option whose value is not checked yet or
not even given. -/
structure Given where
  options : List (String × String) := []
  pending : Option (OptionSpec × Option String) := none
  deriving Repr

namespace Given

/-- Adds an option, which must not have been given before. -/
def add (g : Given) (spec : OptionSpec) (value : String) : Except UsageStop Given :=
  if (g.options.lookup spec.name).isSome then .error .argumentConflict
  else if spec.kind.takes value then .ok { g with options := g.options ++ [(spec.name, value)] }
  else .error .invalidValue

/-- Checks the option that is pending. -/
def settle (g : Given) : Except UsageStop Given :=
  match g.pending with
  | none => .ok g
  | some (_, none) => .error .invalidValue
  | some (spec, some value) => { g with pending := none }.add spec value

/-- Whether an option waits for its value. -/
def isWaiting (g : Given) : Bool := g.pending.any (·.2.isNone)

/-- Takes the value of the option that waits for it. -/
def receive (g : Given) (value : String) : Given :=
  { g with pending := g.pending.map fun waiting => (waiting.1, some value) }

/-- Takes an option with what is attached to it.  Nothing may be attached to a flag, which is
noticed before the pending option is checked. -/
def take (g : Given) (spec : OptionSpec) (attached : Option String) : Except UsageStop Given :=
  if attached.isSome && !spec.kind.isValued then .error .tooManyValues
  else do
    let g ← g.settle
    match spec.kind with
    | .flag => g.add spec ""
    | .help => throw .displayHelp
    | .version => throw .displayVersion
    | _ =>
        match attached with
        | some value => g.add spec value
        | none => return { g with pending := some (spec, none) }

/-- Takes a long option, which may have a value behind an equals sign. -/
def takeLong (g : Given) (specs : List OptionSpec) (text : List Char) : Except UsageStop Given :=
  let cut := text.span (· != '=')
  match specs.find? (·.name == String.ofList cut.1) with
  | none => .error .unknownArgument
  | some spec => g.take spec (if cut.2.isEmpty then none else some (String.ofList (cut.2.drop 1)))

/-- Takes short options.  What follows one that has a value is its value, with or without an
equals sign. -/
def takeShort (g : Given) (specs : List OptionSpec) : List Char → Except UsageStop Given
  | [] => .ok g
  | c :: rest =>
      match specs.find? (·.short == some c) with
      | none => .error .unknownArgument
      | some spec =>
          if spec.kind.isValued then
            match rest with
            | [] => g.take spec none
            | '=' :: value => g.take spec (some (String.ofList value))
            | value => g.take spec (some (String.ofList value))
          else do (← g.take spec none).takeShort specs rest

end Given

/-- A command with the arguments behind it, and what was given in front of it.  An option in front
of a command may still be pending. -/
structure Split where
  given : Given
  command : Option (String × List String) := none

/-- Why a word cannot stand where it does: among the options in front of a command only commands
may stand, and a command is none behind `--`. -/
def misplaced (commands : List String) (escaped : Bool) (word : String) : UsageStop :=
  if commands.isEmpty || (escaped && commands.contains word) then .unknownArgument
  else .invalidSubcommand

/-- Reads options up to the first command. -/
def readOptions (specs : List OptionSpec) (commands : List String) (g : Given) :
    List String → Except UsageStop Split
  | [] => return { given := ← g.settle }
  | arg :: rest =>
      match arg.toList with
      | ['-', '-'] =>
          match rest with
          | [] => return { given := ← g.settle }
          | word :: _ => throw (misplaced commands true word)
      | '-' :: '-' :: text => do readOptions specs commands (← g.takeLong specs text) rest
      | '-' :: c :: text => do readOptions specs commands (← g.takeShort specs (c :: text)) rest
      | _ =>
          if g.isWaiting then readOptions specs commands (g.receive arg) rest
          else if commands.contains arg then return { given := g, command := some (arg, rest) }
          else throw (misplaced commands false arg)

/-! ## Commands -/

/-- What to do. -/
inductive Command where
  | generate (args : GenerateArguments)
  | strategies
  deriving Repr, DecidableEq, Inhabited

/-- All arguments of a run. -/
structure Arguments where
  logLevel : Option String := none
  verbose : Bool := false
  quiet : Bool := false
  command : Command
  deriving Repr, DecidableEq, Inhabited

/-- The commands. -/
def commandNames : List String := ["generate", "strategies", "help"]

/-- The value of an option. -/
def Given.value? (g : Given) (name : String) : Option String := g.options.lookup name

/-- Whether a flag is set. -/
def Given.isSet (g : Given) (name : String) : Bool := (g.value? name).isSome

/-- The arguments for making a document. -/
def Given.generateArguments (g : Given) : GenerateArguments where
  strategy := g.value? "strategy"
  source := g.value? "source"
  input := g.value? "input"
  output := g.value? "output"
  componentId := g.value? "component-id"
  componentVersion := g.value? "component-version"
  category := g.value? "category"
  format := ((g.value? "format").bind formatOfArgument?).getD .xml
  stdout := g.isSet "stdout"

/-- The arguments of a run, from what is given in front of the command and behind it.  A level
behind the command goes before one in front of it. -/
def Arguments.ofGiven (outer inner : Given) (command : Command) : Arguments where
  logLevel := (inner.value? "log-level").or (outer.value? "log-level")
  verbose := outer.isSet "verbose" || inner.isSet "verbose"
  quiet := outer.isSet "quiet" || inner.isSet "quiet"
  command

/-- Whether help is asked for a command: help may be about one command. -/
def helpStop : List String → UsageStop
  | [] => .displayHelp
  | [word] => if commandNames.contains word then .displayHelp else .invalidSubcommand
  | _ => .invalidSubcommand

/-- Reads the arguments of a run.  What is wrong behind the command goes before what is pending in
front of it. -/
def Arguments.parse (args : List String) : Except UsageStop Arguments := do
  let outer ← readOptions topOptions commandNames {} args
  match outer.command with
  | none =>
      throw (if outer.given.options.isEmpty then .helpForMissingCommand else .missingSubcommand)
  | some ("generate", rest) =>
      let inner ← readOptions generateOptions [] {} rest
      return .ofGiven (← outer.given.settle) inner.given (.generate inner.given.generateArguments)
  | some ("strategies", rest) =>
      let inner ← readOptions globalOptions [] {} rest
      return .ofGiven (← outer.given.settle) inner.given .strategies
  | some (_, rest) => throw (helpStop rest)

end ComponentGen.Program

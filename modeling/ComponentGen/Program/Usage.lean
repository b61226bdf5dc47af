import ComponentGen.Program.Arguments
import ComponentGen.Program.Summary

/-!
# Usage

What is shown when a run ends with its arguments.
-/

namespace ComponentGen.Program

/-- An option as it is written. -/
def OptionSpec.text (o : OptionSpec) : String :=
  let short := match o.short with
    | some c => String.ofList ['-', c, ',', ' ']
    | none => "    "
  "  " ++ short ++ "--" ++ o.name ++ (if o.kind.isValued then " <VALUE>" else "") ++ "\n"

/-- How the program is called. -/
def usageText : String :=
  "Usage: " ++ programName ++ " [OPTIONS] <COMMAND>\n\nCommands:\n" ++
    String.join (commandNames.map fun name => "  " ++ name ++ "\n") ++
    "\nOptions:\n" ++ String.join (topOptions.map OptionSpec.text) ++
    "\nOptions of generate:\n" ++
    String.join ((generateOptions.drop globalOptions.length).map OptionSpec.text)

/-- What is wrong with the arguments, if something is. -/
def UsageStop.reason? : UsageStop → Option String
  | .displayHelp => none
  | .displayVersion => none
  | .helpForMissingCommand => none
  | .missingSubcommand => some "a command is missing"
  | .invalidSubcommand => some "there is no such command"
  | .unknownArgument => some "there is no such argument"
  | .invalidValue => some "an option has no valid value"
  | .tooManyValues => some "a flag has a value"
  | .argumentConflict => some "an option is given twice"

/-- What is shown when a run ends with its arguments. -/
def UsageStop.text (stop : UsageStop) : String :=
  match stop, stop.reason? with
  | .displayVersion, _ => programName ++ " " ++ programVersion ++ "\n"
  | _, none => usageText
  | _, some reason => "error: " ++ reason ++ "\n\n" ++ usageText

end ComponentGen.Program

import ComponentGen.Extraction.Generation
import ComponentGen.Number.Numeral

/-!
# Summaries

What is shown to people about a run and about the strategies.
-/

namespace ComponentGen.Program

open Document Extraction Number

/-- The name of the program. -/
def programName : String := "dscgen"

/-- The version of the program. -/
def programVersion : String := "0.3.0"

/-- The line below a heading. -/
def ruleLine : String := String.ofList (List.replicate 42 '\u2501')

/-- A service in a summary. -/
def serviceLine (connector : Char) (s : Service) : String :=
  String.ofList [connector, '\u2500'] ++ " " ++ s.name ++ " (" ++
    intText s.operations.length ++ " operations, " ++ intText s.configParams.length ++
    " config parameters)\n"

/-- The services in a summary, joined by lines. -/
def serviceLines : List Service → String
  | [] => ""
  | [s] => serviceLine '\u2514' s
  | s :: rest => serviceLine '\u251C' s ++ serviceLines rest

/-- The summary of a run that wrote its document to a file, if a file is given. -/
def summary (report : Report) (destination : Option String) : String :=
  let heading :=
    if report.warnings.isEmpty then "\u2713 Component Generated\n"
    else "\u26A0 Component Generated (with warnings)\n"
  let written := match destination with
    | some path => "Written to: " ++ path ++ "\n"
    | none => ""
  let services :=
    if report.component.services.isEmpty then "Services: (none found)\n"
    else "Services:\n" ++ serviceLines report.component.services
  let warnings :=
    if report.warnings.isEmpty then ""
    else
      "\n\u26A0 Warnings (" ++ intText report.warnings.length ++ "):\n" ++
        String.join (report.warnings.map fun w => "  - " ++ w.message ++ "\n")
  heading ++ ruleLine ++ "\n\n" ++
    "Component:  " ++ report.component.id.getD "(no id)" ++ "\n" ++
    "Version:    " ++ report.component.version.getD "(no version)" ++ "\n" ++
    written ++ "\n" ++ services ++ warnings

/-- A text with blanks behind it up to a width. -/
def padded (width : Nat) (s : String) : String :=
  s ++ String.ofList (List.replicate (width - s.length) ' ')

/-- The strategies, one a line. -/
def strategyList : String :=
  "Extraction Strategies\n" ++ ruleLine ++ "\n\n" ++
    String.join (StrategyKind.all.map fun kind =>
      padded 12 kind.name ++ " " ++ kind.description ++
        (if kind = .annotations then " (default)" else "") ++ "\n")

end ComponentGen.Program

import ComponentGen.Text.Letter
import ComponentGen.Text.Trim

/-!
# Log levels

How much is logged, and which of the settings decides about it.
-/

namespace ComponentGen.Program

open Text

/-- How much is logged. -/
inductive LogLevel where
  | trace
  | debug
  | info
  | warn
  | error
  deriving Repr, DecidableEq

namespace LogLevel

/-- The name of a level. -/
def name : LogLevel → String
  | .trace => "trace"
  | .debug => "debug"
  | .info => "info"
  | .warn => "warn"
  | .error => "error"

/-- All levels. -/
def all : List LogLevel := [.trace, .debug, .info, .warn, .error]

/-- The level with exactly the given name. -/
def ofName? (s : String) : Option LogLevel := all.find? (·.name == s)

/-- The level with the given name in any case and with blanks around it. -/
def parse? (s : String) : Option LogLevel := ofName? (lowerText (trim s))

end LogLevel

/-- How to log. -/
structure Logging where
  level : LogLevel := .info
  asJson : Bool := false
  withTarget : Bool := false
  withLocation : Bool := false
  deriving Repr, DecidableEq

/-- How to log with given flags: quiet goes before verbose, and both before a level. -/
def Logging.ofFlags (level : Option String) (verbose quiet : Bool) : Logging where
  level :=
    if quiet then .error
    else if verbose then .debug
    else (level.bind LogLevel.parse?).getD .info
  withTarget := verbose

end ComponentGen.Program

import ComponentGen.Program.Run
import ComponentGen.Program.Usage

/-!
# The program

What a run may read is collected into a store before the run, and what the run changes in the
store is written to the file system behind it.  Everything in between is `Program.run`.
-/

namespace ComponentGen.Main

open Files Program

/-- The variables that are set. -/
def environment : IO Environment := do
  let set ← variableNames.filterMapM fun name => do
    return (← IO.getEnv name).map (name, ·)
  return .ofEntries set

/-- Adds what is found at a path, a file or a directory, to a store that knows what is on the way
to it. -/
def observe (store : Store) (path : String) : IO Store := do
  let place := Store.placeOf path
  if store.locate path matches .error .notDirectory then return store
  try
    return store.put place (← IO.FS.readFile path)
  catch
    | .inappropriateType .. => return { store with made := place :: store.made }
    | _ => return store

/-- The files and directories on some paths. -/
def snapshot (paths : List String) : IO Store := (paths.flatMap waypoints).foldlM observe {}

/-- Writes the directories and files that a run has added or changed. -/
def keep (before after : Store) : IO Unit := do
  for directory in after.made.reverse do
    unless before.isDirectory directory do
      IO.FS.createDirAll (Store.pathOf directory)
  for file in before.changes after do
    IO.FS.writeFile (Store.pathOf file.1) file.2

/-- The paths that a run may follow. -/
def pathsOf (env : Environment) : Command → List String
  | .generate args => ((Config.ofEnvironment env).withArguments args).paths
  | .strategies => []

/-- A run with valid arguments. -/
def start (args : Arguments) : IO UInt32 := do
  let env ← environment
  let before ← snapshot (pathsOf env args.command)
  let outcome := run env before args
  keep before outcome.store
  IO.print outcome.stdout
  IO.eprint outcome.stderr
  return outcome.exitCode.toUInt32

end ComponentGen.Main

/-- Reads the arguments and carries them out. -/
def main (args : List String) : IO UInt32 := do
  match ComponentGen.Program.Arguments.parse args with
  | .ok arguments => ComponentGen.Main.start arguments
  | .error stop =>
      if stop.exitCode = 0 then IO.print stop.text else IO.eprint stop.text
      return stop.exitCode.toUInt32

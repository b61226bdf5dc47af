import ComponentGen.Files.Path

/-!
# Stored files

Files with their contents, and the directories around them.  Reading and writing follow a path
part by part and fail at the first part that does not lead on.
-/

namespace ComponentGen.Files

/-- Why a file cannot be read or written. -/
inductive FileError where
  | missing
  | alreadyExists
  | notDirectory
  | isDirectory
  deriving Repr, DecidableEq

/-- The wording of the reason. -/
def FileError.text : FileError → String
  | .missing => "No such file or directory (os error 2)"
  | .alreadyExists => "File exists (os error 17)"
  | .notDirectory => "Not a directory (os error 20)"
  | .isDirectory => "Is a directory (os error 21)"

/-- A place in a store: the names that lead there from where relative paths start.  A place above
that start is reached by the name `..` alone, once for each level. -/
abbrev Location := List String

/-- Files by their locations, and directories that were made. -/
structure Store where
  files : List (Location × String) := []
  made : List Location := []
  deriving Repr, Inhabited

/-- The place where absolute paths start. -/
def absoluteRoot : Location := ["/"]

namespace Store

/-- The content of the file at a location. -/
def content? (s : Store) (place : Location) : Option String := s.files.lookup place

/-- Whether a location is the start of relative paths or above it. -/
def isAtOrAboveStart (place : Location) : Bool := place.all (· == "..")

/-- Whether a directory is at a location: a place where paths start or one above it, or one that
leads to a file or to a directory that was made. -/
def isDirectory (s : Store) (place : Location) : Bool :=
  isAtOrAboveStart place || place == absoluteRoot ||
    s.files.any (fun file => place.isPrefixOf file.1 && place != file.1) ||
    s.made.any fun directory => place.isPrefixOf directory

/-- The location that a part of a path leads to. -/
def step (place : Location) (part : String) : Location :=
  if isIdle part then place
  else if part == ".." then
    if place == absoluteRoot then place
    else if isAtOrAboveStart place then place ++ [part]
    else place.dropLast
  else place ++ [part]

/-- Why a path does not lead on from a location that is no directory. -/
def blocked (s : Store) (place : Location) : FileError :=
  if (s.content? place).isSome then .notDirectory else .missing

/-- Follows the parts of a path. -/
def follow (s : Store) (place : Location) : List String → Except FileError Location
  | [] => .ok place
  | part :: rest =>
      if s.isDirectory place then s.follow (step place part) rest else .error (s.blocked place)

/-- Where a path starts, and the parts that lead on from there. -/
def start (path : String) : Location × List String :=
  match parts path with
  | "" :: rest => (absoluteRoot, rest)
  | all => ([], all)

/-- The location that a path would name if all places on it were directories. -/
def placeOf (path : String) : Location := (start path).2.foldl step (start path).1

/-- The location that a path names. -/
def locate (s : Store) (path : String) : Except FileError Location :=
  if path.isEmpty then .error .missing
  else s.follow (start path).1 (start path).2

/-- The content of the file that a path names. -/
def read (s : Store) (path : String) : Except FileError String :=
  match s.locate path with
  | .error e => .error e
  | .ok place =>
      match s.content? place with
      | some text => .ok text
      | none => .error (if s.isDirectory place then .isDirectory else .missing)

/-- Whether a path names a file or a directory. -/
def holds (s : Store) (path : String) : Bool :=
  match s.locate path with
  | .error _ => false
  | .ok place => s.isDirectory place || (s.content? place).isSome

/-- Sets the content of the file at a location. -/
def put (s : Store) (place : Location) (text : String) : Store :=
  { s with files := (place, text) :: s.files.filter (·.1 != place) }

/-- A change of a store.  What was changed before a change fails stays changed. -/
abbrev Change := EStateM FileError Store

/-- The store with a directory at a location. -/
def withDirectory (s : Store) (place : Location) : Store :=
  { s with made := if s.isDirectory place then s.made else place :: s.made }

/-- Follows the parts of a path and makes the directories that are missing on it; `complete` tells
that none was missing so far.  A file on the way is no directory to pass through, and behind a
directory that had to be made it is in the way of the next one. -/
def makeFrom (complete : Bool) (place : Location) : List String → Change Unit
  | [] => pure ()
  | part :: rest => do
      let next := step place part
      let s ← get
      if (s.content? next).isSome then
        throw (if !complete || rest.all isIdle then .alreadyExists else .notDirectory)
      else
        set (s.withDirectory next)
        makeFrom (complete && s.isDirectory next) next rest

/-- Makes the directories of a path. -/
def makeDirectories (path : String) : Change Unit := makeFrom true (start path).1 (start path).2

/-- Whether a path says itself that it names a directory. -/
def endsInSlash (path : String) : Bool := path.toList.getLast? == some '/'

/-- Writes a file to an existing directory. -/
def write (path text : String) : Change Unit := do
  let s ← get
  match s.locate path with
  | .error e => throw (if e == .missing && endsInSlash path then .isDirectory else e)
  | .ok place => if s.isDirectory place then throw .isDirectory else set (s.put place text)

/-- Whether a location is below the start of relative paths. -/
def isBelowStart (place : Location) : Bool := place.head?.any fun name => name != "/" && name != ".."

/-- The path that names a location. -/
def pathOf (place : Location) : String :=
  match place with
  | "/" :: rest => "/" ++ "/".intercalate rest
  | names => "/".intercalate names

/-- The files that a store has in another way than an earlier one: new ones, and those with
another content. -/
def changes (before after : Store) : List (Location × String) :=
  after.files.filter fun file => before.content? file.1 != some file.2

end Store

end ComponentGen.Files

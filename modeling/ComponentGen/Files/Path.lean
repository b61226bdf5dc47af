import ComponentGen.Text.Trim

/-!
# File paths

Paths with `/` between their parts.  Empty parts and `.` at the end of a path say nothing about
which file it names.
-/

namespace ComponentGen.Files

/-- The pieces between the occurrences of a separator, of which there is at least one. -/
def splitAt (separator : Char) : List Char → List (List Char)
  | [] => [[]]
  | c :: rest =>
      if c == separator then [] :: splitAt separator rest
      else match splitAt separator rest with
        | [] => [[c]]
        | piece :: pieces => (c :: piece) :: pieces

/-- The parts of a path. -/
def parts (path : String) : List String := (splitAt '/' path.toList).map String.ofList

/-- Parts that stand for the place where they are. -/
def isIdle (part : String) : Bool := part == "" || part == "."

/-- Parts without the idle ones at the end. -/
def settled (parts : List String) : List String := (parts.reverse.dropWhile isIdle).reverse

/-- The last part of a path, if it names something. -/
def fileName? (path : String) : Option String :=
  (settled (parts path)).getLast?.filter (· != "..")

/-- What follows the last point in the name of a file, unless the name starts with that point. -/
def extension? (path : String) : Option String :=
  (fileName? path).bind fun name =>
    match name.toList.reverse.span (· != '.') with
    | (_, []) => none
    | (_, [_]) => none
    | (ending, _ :: _ :: _) => some (String.ofList ending.reverse)

/-- The path of the directory that a path lies in, unless that is where all relative paths
start. -/
def parent? (path : String) : Option String :=
  let directory := settled (settled (parts path)).dropLast
  if directory.isEmpty then none else some ("/".intercalate directory)

/-- The paths that lead to a path part by part, the path itself last. -/
def waypoints (path : String) : List String :=
  let all := parts path
  ((List.range all.length).map fun i => "/".intercalate (all.take (i + 1))).filter (· != "")

end ComponentGen.Files

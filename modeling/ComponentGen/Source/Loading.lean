import ComponentGen.Data.Text
import ComponentGen.Files.Store
import ComponentGen.Source.Reading

/-!
# Loading source trees

Source trees are stored as JSON or YAML text.  A file is taken to be JSON unless its name says
that it is YAML.
-/

namespace ComponentGen.Source

open Files

/-- Why no source tree can be loaded. -/
inductive LoadFailure where
  | notFound (path : String)
  | unreadable (path : String) (reason : FileError)
  | malformed (path : String)
  deriving Repr, DecidableEq

/-- What is said about a failure. -/
def LoadFailure.message : LoadFailure → String
  | .notFound path => "Descriptor source not found: " ++ path
  | .unreadable path reason => "Failed to read descriptor source " ++ path ++ ": " ++ reason.text
  | .malformed path =>
      "Failed to parse descriptor source " ++ path ++ ": " ++ DataFormat.unreadReason

/-- The source tree of a text. -/
def Tree.ofText? (format : DataFormat) (text : String) : Option Tree :=
  (format.read? text).bind Tree.read?

/-- The source tree in a file. -/
def Tree.load (store : Store) (path : String) : Except LoadFailure Tree :=
  if store.holds path then
    match store.read path with
    | .error reason => .error (.unreadable path reason)
    | .ok text =>
        match Tree.ofText? ((DataFormat.ofPath? path).getD .json) text with
        | some tree => .ok tree
        | none => .error (.malformed path)
  else .error (.notFound path)

end ComponentGen.Source

import ComponentGen.Files.Path
import ComponentGen.Json.Reader
import ComponentGen.Yaml.Document

/-!
# Texts of data documents

The node that a text in one of the data formats holds, and the format that the name of a file
tells.  A reader says no more than that a text is none of its format, so one phrase stands where
a message names the reason.
-/

namespace ComponentGen.DataFormat

/-- What stands for the reason why a text cannot be read. -/
def unreadReason : String := "<parser message>"

/-- The node of a text. -/
def read? (format : DataFormat) (text : String) : Option Node :=
  match format with
  | .json => Json.read? text
  | .yaml => Yaml.read? text

/-- The format that a file's name ends with, if it does. -/
def ofPath? (path : String) : Option DataFormat :=
  match Files.extension? path with
  | some "json" => some .json
  | some "yaml" => some .yaml
  | some "yml" => some .yaml
  | _ => none

end ComponentGen.DataFormat

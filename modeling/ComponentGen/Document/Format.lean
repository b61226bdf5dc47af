import ComponentGen.Document.Fields
import ComponentGen.Document.Markup
import ComponentGen.Json.Printer
import ComponentGen.Text.Letter
import ComponentGen.Yaml.Printer

/-!
# Document formats

The formats that documents are written in.
-/

namespace ComponentGen.Document

/-- A format of documents. -/
inductive Format where
  | xml
  | json
  | yaml
  deriving Repr, DecidableEq, Inhabited

namespace Format

/-- The name of a format. -/
def name : Format → String
  | .xml => "xml"
  | .json => "json"
  | .yaml => "yaml"

/-- The format with a given name in any case; YAML has two names. -/
def ofName? (s : String) : Option Format :=
  match Text.lowerText s with
  | "xml" => some .xml
  | "json" => some .json
  | "yaml" => some .yaml
  | "yml" => some .yaml
  | _ => none

/-- What is said about a name that is not the name of a format. -/
def unknownMessage (s : String) : String := "Unknown output format: " ++ s

end Format

/-- The text of a document in a format. -/
def Component.render (format : Format) (c : Component) : String :=
  match format with
  | .xml => c.markup.print
  | .json => c.toJson.print
  | .yaml => Yaml.print c.toJson

end ComponentGen.Document

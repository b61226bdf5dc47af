import ComponentGen.Data.Text
import ComponentGen.Document.Fields
import ComponentGen.Files.Store
import ComponentGen.Xml.Reader

/-!
# Earlier documents

A document that was written before is loaded for what it says about the component as a whole;
its services are passed over.  A file is taken to be XML unless its name says otherwise.  In XML
a text without blanks around it counts, and only if something is left of it.
-/

namespace ComponentGen.Document

open Files Text

/-- Why no earlier document can be loaded. -/
inductive LoadFailure where
  | unreadable (path : String) (reason : FileError)
  | malformed (path : String)
  | unexpectedRoot (path found : String)
  deriving Repr, DecidableEq

/-- What is said about a failure. -/
def LoadFailure.message : LoadFailure → String
  | .unreadable path reason =>
      "Failed to read component document " ++ path ++ ": " ++ reason.text
  | .malformed path =>
      "Failed to parse component document " ++ path ++ ": " ++ DataFormat.unreadReason
  | .unexpectedRoot path found =>
      "Component document " ++ path ++ " has unexpected root element <" ++ found ++ ">"

/-- The text that the content of an element starts with. -/
def leadingText? : List Xml.Content → Option String
  | .text s :: _ => some s
  | _ => none

/-- Takes in an element below the root of a document. -/
def Component.withElement (c : Component) : Xml.Content → Component
  | .element name _ children =>
      let value := (leadingText? children).bind nonBlank?
      match name.name with
      | "component-id" => { c with id := value }
      | "version" => { c with version := value }
      | "bootstrap-class" => { c with bootstrapClass := value }
      | "lifecycle-class" => { c with lifecycleClass := value }
      | "class-path" => { c with classPath := value }
      | _ => c
  | _ => c

/-- What the root element of a document says about the component; another root is given by its
name. -/
def Component.ofXml : Xml.Content → Except String Component
  | .element name _ children =>
      if name.name = "component" then .ok (children.foldl Component.withElement {})
      else .error name.name
  | _ => .error ""

/-- What the text of an XML document says about the component. -/
def Component.parseXml (path text : String) : Except LoadFailure Component :=
  match Xml.read? text with
  | none => .error (.malformed path)
  | some root =>
      match Component.ofXml root with
      | .ok c => .ok c
      | .error found => .error (.unexpectedRoot path found)

/-- The component of a text, in the format that the path tells. -/
def Component.parse (path text : String) : Except LoadFailure Component :=
  match DataFormat.ofPath? path with
  | some format =>
      match (format.read? text).bind Component.read? with
      | some c => .ok c
      | none => .error (.malformed path)
  | none => Component.parseXml path text

/-- What an earlier document says about the component as a whole. -/
def Component.load (store : Store) (path : String) : Except LoadFailure Component :=
  match store.read path with
  | .error reason => .error (.unreadable path reason)
  | .ok text => (Component.parse path text).map Component.scalarsOnly

end ComponentGen.Document

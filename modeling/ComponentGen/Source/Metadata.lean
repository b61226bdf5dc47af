import ComponentGen.Data.Json
import ComponentGen.Text.Dictionary
import ComponentGen.Text.Trim

/-!
# Comments, tags and annotations

What a declaration says about itself besides its own structure: a comment, tags inside the
comment, and annotations with named values.
-/

namespace ComponentGen.Source

open Number Text

/-- A tag of a comment. -/
structure Tag where
  name : String
  value : String := ""
  deriving Repr, DecidableEq

/-- A value given in an annotation. -/
inductive AnnotationValue where
  | bool (b : Bool)
  | int (n : Int)
  | float (x : Binary64)
  | text (s : String)
  | list (items : List AnnotationValue)
  | nested (values : List (String × AnnotationValue))
  deriving Repr, Inhabited

/-- The values of an annotation. -/
abbrev AnnotationValues := Dictionary AnnotationValue

/-- The package that qualified names of annotations are in. -/
def annotationPackage : String := "be.idamediafoundry.sofa.livecycle.dsc.annotations"

/-- What a declaration says about itself. -/
structure Metadata where
  doc : Option String := none
  tags : List Tag := []
  annotations : Dictionary AnnotationValues := []
  deriving Repr, Inhabited

/-- Whether an annotation's name is the given simple name, alone or in its package. -/
def namesAnnotation (simple name : String) : Bool :=
  name == simple || name == annotationPackage ++ "." ++ simple

namespace Metadata

/-- The values of an annotation with a given simple name; of two, those of the name that comes
first in alphabetic order. -/
def annotation? (m : Metadata) (simple : String) : Option AnnotationValues :=
  (m.annotations.find? fun entry => namesAnnotation simple entry.1).map (·.2)

/-- Whether an annotation is given. -/
def isAnnotatedWith (m : Metadata) (simple : String) : Bool := (m.annotation? simple).isSome

/-- The first tag with a given name. -/
def tag? (m : Metadata) (name : String) : Option Tag := m.tags.find? (·.name == name)

/-- Whether a tag is given. -/
def hasTag (m : Metadata) (name : String) : Bool := (m.tag? name).isSome

/-- All tags with a given name. -/
def tagsNamed (m : Metadata) (name : String) : List Tag := m.tags.filter (·.name == name)

/-- The value of the first tag with a given name, unless it is blank. -/
def tagValue? (m : Metadata) (name : String) : Option String :=
  (m.tag? name).bind fun tag => nonBlank? tag.value

end Metadata

/-- The comments that tags of one kind give to the things they name in their first words, and
the values of tags that give none. -/
structure TagComments where
  comments : Dictionary String := []
  malformed : List String := []
  deriving Repr

namespace TagComments

/-- Takes in the value of a tag: a first word, blanks and a comment.  A later comment on the same
word replaces an earlier one. -/
def add (known : TagComments) (value : String) : TagComments :=
  match splitAtSpace? (trim value) with
  | some (word, comment) =>
      { known with
        comments := known.comments.insert word (String.ofList (trimLeft comment.toList)) }
  | none => { known with malformed := known.malformed ++ [trim value] }

/-- The comment on a word. -/
def on? (known : TagComments) (word : String) : Option String := known.comments.get? word

end TagComments

/-- The comments that the tags with a given name give. -/
def Metadata.tagComments (m : Metadata) (name : String) : TagComments :=
  (m.tagsNamed name).foldl (fun known tag => known.add tag.value) {}

end ComponentGen.Source

import ComponentGen.Document.Component
import ComponentGen.Extraction.Marker
import ComponentGen.Extraction.OperationName
import ComponentGen.Naming.Sentence
import ComponentGen.Source.Tree

/-!
# Parts of documents that need no annotations

What is taken from declarations in the same way whether they carry annotations or tags.  The
functions set the fields that they are about and keep all others.
-/

namespace ComponentGen.Extraction

open Document Naming Source

/-- The interface of the class that starts a component. -/
def bootstrapInterface : String := "com.adobe.idp.dsc.component.Bootstrap"

/-- The interface of the class that is told about the life of a component. -/
def lifecycleInterface : String := "com.adobe.idp.dsc.component.LifeCycle"

/-- The name of an output without a name. -/
def defaultOutputName : String := "out"

/-- The tag on parameters. -/
def paramTag : String := "param"

/-- The tag on what is returned. -/
def returnTag : String := "return"

/-- The tag on faults. -/
def throwsTag : String := "throws"

/-- The name of the first class of a tree that implements an interface, or else the name that
was known before. -/
def implementingName (tree : Tree) (type : String) (known : Option String) : Option String :=
  ((tree.implementing? type).map (·.qualifiedName)).or known

/-- Sets what a tree says about the component as a whole. -/
def fillComponent (tree : Tree) (c : Component) : Component :=
  { c with
    bootstrapClass := implementingName tree bootstrapInterface c.bootstrapClass
    lifecycleClass := implementingName tree lifecycleInterface c.lifecycleClass }

/-! ## Operations -/

/-- Whether a member can be an operation: everyone may call it, and it neither makes an object
nor reads or writes a property. -/
def hasOperationShape (m : Member) : Bool :=
  m.isPublic && !m.isConstructor && !m.isAccessor && !m.isMutator

/-- Describes an input. -/
def fillInput (m : Member) (input : Source.Parameter) (p : Document.Parameter) :
    Document.Parameter :=
  let comment := (m.tagComments paramTag).on? input.name
  { p with
    name := input.name
    type := input.type.qualified
    title := title input.name
    hint := comment.map firstSentence
    description := comment }

/-- Describes a fault. -/
def fillFault (m : Member) (type : TypeName) (f : Fault) : Fault :=
  let comment := (m.tagComments throwsTag).on? type.simple
  { f with
    name := type.simple
    type := type.qualified
    title := title type.simple
    hint := comment.map firstSentence
    description := comment }

/-- The warnings about tags of a member that comment on nothing. -/
def tagWarnings (c : Source.Class) (m : Member) : List Warning :=
  [paramTag, throwsTag].flatMap fun tag =>
    (m.tagComments tag).malformed.map (.malformedTagComment c.qualifiedName m.name tag)

/-! ## Services -/

/-- Sets the name, the class and the comments of a service. -/
def fillIdentity (c : Source.Class) (s : Service) : Service :=
  { s with
    name := c.simpleName
    implementationClass := c.qualifiedName
    hint := c.doc.map firstSentence
    description := c.doc }

/-- Why a member cannot be a factory method. -/
def factoryViolation? (m : Member) : Option FactoryViolation :=
  if !m.isPublic then some .notPublic
  else if !m.isStatic then some .notStatic
  else if m.isAbstract then some .isAbstract
  else if m.isConstructor then some .isConstructor
  else if m.isAccessor || m.isMutator then some .isProperty
  else none

/-- The factory method of a class: the first of the members that are marked as one.  The others
are warned about. -/
def factoryMethod (c : Source.Class) (candidates : List Member) :
    Except Failure (Noted (Option String)) :=
  match candidates with
  | [] => .ok { value := none }
  | factory :: others =>
      match factoryViolation? factory with
      | some reason => .error (.invalidFactory factory.name c.qualifiedName reason)
      | none =>
          .ok {
            value := some factory.name
            warnings := others.map fun other =>
              .multipleFactoryMethods c.qualifiedName factory.name other.name }

/-- The category of a service: the one it gives itself, or else the configured one, or else the
name of the component. -/
def categoryFor (explicit configured : Option String) (component : Component) : String :=
  (explicit.or (configured.or component.id)).getD ""

/-- The number in a version, with a warning if something else is given. -/
def notedVersion (c : Source.Class) (field : String) : VersionNumber → Noted (Option Int)
  | .unset => { value := none }
  | .value n => { value := some n }
  | .malformed value =>
      { value := none, warnings := [.malformedVersion c.qualifiedName field value] }

/-! ## Configuration parameters -/

/-- Sets the name, the type and the title of a configuration parameter, if the member is about a
property. -/
def fillProperty? (m : Member) (p : ConfigParam) : Option ConfigParam :=
  match m.propertyName?, m.propertyType? with
  | some property, some type =>
      let named := p.forProperty property
      some { named with type := type.qualified, title := title named.name }
  | _, _ => none

end ComponentGen.Extraction

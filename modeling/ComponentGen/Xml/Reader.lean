import ComponentGen.Text.Trim
import ComponentGen.Xml.Reference

/-!
# Reading XML

A well-formed document with namespaces is read into the element at its root.  Texts that are
next to each other are one text; comments and processing instructions are kept, because they
separate texts.  Document types are refused, so no entities exist beyond the predefined ones.
-/

namespace ComponentGen.Xml

open Text

/-- A name with the namespace it belongs to, if any. -/
structure ExpandedName where
  space : Option String
  name : String
  deriving Repr, DecidableEq

/-- An attribute. -/
structure Attribute where
  name : ExpandedName
  value : String
  deriving Repr, DecidableEq

/-- What an element may hold. -/
inductive Content where
  | element (name : ExpandedName) (attributes : List Attribute) (children : List Content)
  | text (s : String)
  | comment (s : String)
  | instruction (target s : String)
  deriving Repr, Inhabited

/-- A name as it is written, with its qualifier in front of the colon. -/
structure QualifiedName where
  qualifier : List Char
  base : List Char
  deriving Repr, DecidableEq

/-- The namespaces in force, by qualifier; the empty qualifier stands for the default.  Inner
declarations come first. -/
abbrev Scope := List (List Char × String)

/-- The namespace of the qualifier `xml`, which is always declared. -/
def xmlSpace : String := "http://www.w3.org/XML/1998/namespace"

/-- The namespace of the qualifier `xmlns`, which must not be declared. -/
def declarationSpace : String := "http://www.w3.org/2000/xmlns/"

/-- The qualifier that is always declared. -/
def xmlQualifier : List Char := ['x', 'm', 'l']

/-- The name of namespace declarations. -/
def declarationName : List Char := ['x', 'm', 'l', 'n', 's']

/-! ## Names and attributes -/

/-- A name, with what follows it. -/
def readName? (cs : List Char) : Option (List Char × List Char) :=
  if cs.head?.any isNameStart then some (cs.span isNameChar) else none

/-- A name with an optional qualifier, with what follows it. -/
def readQualifiedName? (cs : List Char) : Option (QualifiedName × List Char) :=
  let (word, rest) := cs.span isNameChar
  let name : QualifiedName := match word.span (· != ':') with
    | (base, []) => ⟨[], base⟩
    | (qualifier, _ :: base) => ⟨qualifier, base⟩
  if !name.base.contains ':' && name.base.head?.any isNameStart &&
      (name.qualifier.isEmpty || name.qualifier.head?.any isNameStart) then
    some (name, rest)
  else none

/-- An attribute with its value as written, and what follows it. -/
def readAttribute? (cs : List Char) : Option ((QualifiedName × List Char) × List Char) :=
  match readQualifiedName? cs with
  | none => none
  | some (name, rest) =>
      match skipSpace rest with
      | '=' :: rest =>
          match skipSpace rest with
          | quote :: rest =>
              if quote == '"' || quote == '\'' then
                match cutAt? [quote] rest with
                | some (value, rest) =>
                    if value.all (fun c => isAllowed c && c != '<') then
                      some ((name, value), rest)
                    else none
                | none => none
              else none
          | [] => none
      | _ => none

/-- The end of a start tag. -/
inductive TagEnd where
  | opened
  | closed
  deriving Repr, DecidableEq

/-- The attributes of a start tag, each behind a blank, with the end of the tag and what follows
it. -/
def readAttributes? : Nat → List Char →
    Option (List (QualifiedName × List Char) × TagEnd × List Char)
  | 0, _ => none
  | fuel + 1, cs =>
      match skipSpace cs with
      | '/' :: '>' :: rest => some ([], .closed, rest)
      | '>' :: rest => some ([], .opened, rest)
      | inner =>
          if startsWithSpace cs then do
            let (first, rest) ← readAttribute? inner
            let (others, tagEnd, rest) ← readAttributes? fuel rest
            return (first :: others, tagEnd, rest)
          else none

/-- Adds the namespace that an attribute declares to those that its element declares itself. -/
def declare? (declared : Scope) (name : QualifiedName) (value : String) : Option Scope :=
  if name.qualifier = declarationName then
    if value = declarationSpace then none
    else if name.base = xmlQualifier then if value = xmlSpace then some declared else none
    else if value = xmlSpace || (declared.lookup name.base).isSome then none
    else some (declared ++ [(name.base, value)])
  else if value = xmlSpace || value = declarationSpace then none
  else some (declared ++ [([], value)])

/-- Whether an attribute declares a namespace. -/
def QualifiedName.isDeclaration (name : QualifiedName) : Bool :=
  name.qualifier == declarationName || name.base == declarationName

/-- The value of an attribute, from its text. -/
def attributeValue? (value : List Char) : Option String :=
  (pieces? none value).map fun pieces => String.ofList (attributeContent pieces)

/-- The namespace of a qualifier. -/
def spaceOf? (scope : Scope) (qualifier : List Char) : Option (Option String) :=
  match scope.lookup qualifier with
  | some space => some (some space)
  | none => if qualifier.isEmpty then some none else none

/-- The namespace of an attribute; one without a qualifier has none. -/
def attributeSpace? (scope : Scope) (qualifier : List Char) : Option (Option String) :=
  if qualifier = xmlQualifier then some (some xmlSpace)
  else if qualifier.isEmpty then some none
  else spaceOf? scope qualifier

/-- The attributes of an element that declare no namespace, each name once. -/
def resolveAttributes? (scope : Scope) :
    List (QualifiedName × String) → Option (List Attribute)
  | [] => some []
  | (name, value) :: rest => do
      let space ← attributeSpace? scope name.qualifier
      let others ← resolveAttributes? scope rest
      let own : ExpandedName := ⟨space, String.ofList name.base⟩
      if others.any (·.name == own) then none else some (⟨own, value⟩ :: others)

/-- The namespaces in force inside an element and its attributes, from the attributes of its
start tag. -/
def resolveTag? (outer : Scope) (written : List (QualifiedName × List Char)) :
    Option (Scope × List Attribute) := do
  let valued ← written.mapM fun w => (attributeValue? w.2).map fun value => (w.1, value)
  let (declarations, others) := valued.partition (·.1.isDeclaration)
  let declared ← declarations.foldlM (fun scope d => declare? scope d.1 d.2) []
  let scope := declared ++ outer
  let attributes ← resolveAttributes? scope others
  return (scope, attributes)

/-! ## Content -/

/-- A comment behind its `<!--`, with what follows. -/
def readComment? (cs : List Char) : Option (Content × List Char) :=
  match cutAt? ['-', '-', '>'] cs with
  | some (s, rest) =>
      if s.all isAllowed && (cutAt? ['-', '-'] s).isNone && s.getLast? != some '-' then
        some (.comment (String.ofList s), rest)
      else none
  | none => none

/-- A processing instruction behind its `<?`, with what follows.  It must not look like the
declaration of a document. -/
def readInstruction? (cs : List Char) : Option (Content × List Char) :=
  if (after? ['x', 'm', 'l', ' '] cs).isSome then none
  else match readName? cs with
    | some (target, rest) =>
        match cutAt? ['?', '>'] (skipSpace rest) with
        | some (s, rest) =>
            if s.all isAllowed then
              some (.instruction (String.ofList target) (String.ofList s), rest)
            else none
        | none => none
    | none => none

/-- A literal section behind its `<![CDATA[`, with what follows. -/
def readSection? (cs : List Char) : Option (List Char × List Char) :=
  match cutAt? [']', ']', '>'] cs with
  | some (s, rest) =>
      if s.all isAllowed then some (textContent (s.map .literal), rest) else none
  | none => none

/-- Character data up to the next markup, with what follows. -/
def readText? (cs : List Char) : Option (List Char × List Char) :=
  let (s, rest) := cs.span (· != '<')
  if s.all isAllowed && (cutAt? [']', ']', '>'] s).isNone then
    (pieces? none s).map fun pieces => (textContent pieces, rest)
  else none

/-- Puts a text in front of other content, joining it with a text it stands next to. -/
def consText (s : List Char) : List Content → List Content
  | .text t :: rest => .text (String.ofList (s ++ t.toList)) :: rest
  | rest => .text (String.ofList s) :: rest

/-- What follows an end tag with the given name, of which `</` has been read. -/
def afterEndTag? (name : QualifiedName) (cs : List Char) : Option (List Char) :=
  match readQualifiedName? cs with
  | some (closed, rest) =>
      match skipSpace rest with
      | '>' :: rest => if closed = name then some rest else none
      | _ => none
  | none => none

mutual

/-- An element behind its `<`, with what follows. -/
def readElement? (fuel : Nat) (outer : Scope) (cs : List Char) : Option (Content × List Char) :=
  match fuel with
  | 0 => none
  | fuel + 1 => do
      let (name, rest) ← readQualifiedName? cs
      let (written, tagEnd, rest) ← readAttributes? (rest.length + 1) rest
      let (scope, attributes) ← resolveTag? outer written
      let space ← spaceOf? scope name.qualifier
      if name.qualifier = declarationName then none
      else
        let own : ExpandedName := ⟨space, String.ofList name.base⟩
        match tagEnd with
        | .closed => return (.element own attributes [], rest)
        | .opened => do
            let (children, rest) ← readContent? fuel scope rest
            let rest ← afterEndTag? name rest
            return (.element own attributes children, rest)
termination_by structural fuel

/-- The content of an element, with what follows the `</` behind it. -/
def readContent? (fuel : Nat) (scope : Scope) (cs : List Char) :
    Option (List Content × List Char) :=
  match fuel with
  | 0 => none
  | fuel + 1 =>
      let andMore (first : Option (Content × List Char)) : Option (List Content × List Char) := do
        let (item, rest) ← first
        let (items, rest) ← readContent? fuel scope rest
        return (item :: items, rest)
      let textAndMore (first : Option (List Char × List Char)) :
          Option (List Content × List Char) := do
        let (s, rest) ← first
        let (items, rest) ← readContent? fuel scope rest
        return (consText s items, rest)
      match cs with
      | [] => none
      | '<' :: '/' :: rest => some ([], rest)
      | '<' :: '!' :: '-' :: '-' :: rest => andMore (readComment? rest)
      | '<' :: '!' :: '[' :: 'C' :: 'D' :: 'A' :: 'T' :: 'A' :: '[' :: rest =>
          textAndMore (readSection? rest)
      | '<' :: '?' :: rest => andMore (readInstruction? rest)
      | '<' :: rest => andMore (readElement? fuel scope rest)
      | cs => textAndMore (readText? cs)
termination_by structural fuel

end

/-! ## Documents -/

/-- A blank, unless the declaration of a document ends here. -/
def declarationSpace? (cs : List Char) : Option (List Char) :=
  if startsWithSpace cs then some (skipSpace cs)
  else if cs.isEmpty || (after? ['?', '>'] cs).isSome then some cs
  else none

/-- Passes over an attribute of the declaration that may be missing. -/
def skipDeclared? (name : List Char) (cs : List Char) : Option (List Char) :=
  if name.isPrefixOf cs then (readAttribute? cs).map (·.2) else some cs

/-- Passes over the declaration in front of a document, if there is one. -/
def afterDeclaration? (cs : List Char) : Option (List Char) :=
  if (after? "<?xml ".toList cs).isNone then some cs
  else do
    let cs ← declarationSpace? (cs.drop 5)
    let cs ← if "version".toList.isPrefixOf cs then (readAttribute? cs).map (·.2) else none
    let cs ← declarationSpace? cs
    let cs ← if "encoding".toList.isPrefixOf cs then
        (readAttribute? cs).bind (declarationSpace? ·.2)
      else some cs
    let cs ← skipDeclared? "standalone".toList cs
    after? ['?', '>'] (skipSpace cs)

/-- Passes over blanks, comments and processing instructions outside the root element. -/
def afterMisc? : Nat → List Char → Option (List Char)
  | 0, _ => none
  | fuel + 1, cs =>
      match skipSpace cs with
      | '<' :: '!' :: '-' :: '-' :: rest =>
          (readComment? rest).bind fun comment => afterMisc? fuel comment.2
      | '<' :: '?' :: rest =>
          (readInstruction? rest).bind fun instruction => afterMisc? fuel instruction.2
      | rest => some rest

/-- Reads a document and gives its root element.  Every call of the reader takes a character, so
the length of the text bounds their number. -/
def read? (s : String) : Option Content := do
  let cs := (after? ['\uFEFF'] s.toList).getD s.toList
  let fuel := cs.length + 1
  let cs ← afterDeclaration? cs
  match ← afterMisc? fuel cs with
  | '<' :: rest => do
      let (root, rest) ← readElement? fuel [] rest
      if (← afterMisc? fuel rest).isEmpty then some root else none
  | _ => none

end ComponentGen.Xml

import ComponentGen.Proofs.Xml.Documents
import ComponentGen.Proofs.Xml.ReportedText

/-!
# The grammar of documents

Which texts are well-formed documents, and of which root element, as the productions of XML 1.0
tell it and without regard to how a reader goes about it.  The part of the grammar that is given
here has no document types, comments, processing instructions or literal sections; names have no
qualifiers, so that only the default namespace matters; and line ends are normalized already.

A document that is laid out is well formed whatever the texts in it are, and its root is the
element that was laid out.
-/

namespace ComponentGen.Xml

open Text

/-! ## Productions -/

/-- A reference to a predefined entity, and the character it stands for. -/
inductive IsReference : List Char → Char → Prop where
  | ampersand : IsReference "&amp;".toList '&'
  | lessThan : IsReference "&lt;".toList '<'
  | greaterThan : IsReference "&gt;".toList '>'
  | quotationMark : IsReference "&quot;".toList '"'
  | apostrophe : IsReference "&apos;".toList '\''

/-- Characters and references between tags, and the text they stand for. -/
inductive IsText : List Char → List Char → Prop where
  | nil : IsText [] []
  | char {c : Char} {written text : List Char} (allowed : isAllowed c = true) (noTag : c ≠ '<')
      (noReference : c ≠ '&') (rest : IsText written text) : IsText (c :: written) (c :: text)
  | reference {c : Char} {name written text : List Char} (named : IsReference name c)
      (rest : IsText written text) : IsText (name ++ written) (c :: text)

/-- Character data: what is between tags does not hold the end of a literal section. -/
def IsCharacterData (written text : List Char) : Prop :=
  IsText written text ∧ ¬ [']', ']', '>'] <:+: written

/-- Characters and references between quotation marks, and the value they stand for. -/
inductive IsValue : List Char → List Char → Prop where
  | nil : IsValue [] []
  | blank {c : Char} {written value : List Char} (blank : isSpace c = true)
      (rest : IsValue written value) : IsValue (c :: written) (' ' :: value)
  | char {c : Char} {written value : List Char} (allowed : isAllowed c = true)
      (noBlank : isSpace c = false) (noTag : c ≠ '<') (noReference : c ≠ '&') (noEnd : c ≠ '"')
      (rest : IsValue written value) : IsValue (c :: written) (c :: value)
  | reference {c : Char} {name written value : List Char} (named : IsReference name c)
      (rest : IsValue written value) : IsValue (name ++ written) (c :: value)

/-- The attributes in a tag, each with white space in front of it. -/
inductive IsAttributes : List Char → List (String × String) → Prop where
  | nil : IsAttributes [] []
  | cons {name : String} {blanks written value rest : List Char}
      {others : List (String × String)} (apart : blanks ≠ [])
      (blank : ∀ c ∈ blanks, isSpace c = true) (isName : isUnqualified name.toList = true)
      (isValue : IsValue written value) (isRest : IsAttributes rest others) :
      IsAttributes (blanks ++ (name.toList ++ '=' :: '"' :: (written ++ '"' :: rest)))
        ((name, String.ofList value) :: others)

/-- The name of the attribute that declares the default namespace. -/
def spaceAttribute : String := "xmlns"

/-- The attributes of a tag, no two of one name; a namespace that is declared is none of the
reserved ones. -/
structure IsTag (written : List Char) (attributes : List (String × String)) : Prop where
  isAttributes : IsAttributes written attributes
  distinct : (attributes.map (·.1)).Nodup
  declarable : ∀ space, (spaceAttribute, space) ∈ attributes →
    space ≠ "" ∧ space ≠ xmlSpace ∧ space ≠ declarationSpace

/-- The default namespace inside an element. -/
def spaceInside (outer : Option String) (attributes : List (String × String)) : Option String :=
  (attributes.lookup spaceAttribute).or outer

/-- The attributes that declare no namespace; they are in none themselves. -/
def ownAttributes (attributes : List (String × String)) : List Attribute :=
  (attributes.filter (·.1 != spaceAttribute)).map fun a => ⟨⟨none, a.1⟩, a.2⟩

/-- A text as content. -/
def textNode (text : List Char) : List Content :=
  if text = [] then [] else [.text (String.ofList text)]

mutual

/-- An element, where a default namespace is in force. -/
inductive IsElement : Option String → List Char → Content → Prop where
  | empty {outer : Option String} {name : String} {tag : List Char}
      {attributes : List (String × String)} (isName : isUnqualified name.toList = true)
      (isTag : IsTag tag attributes) :
      IsElement outer ('<' :: (name.toList ++ (tag ++ ['/', '>'])))
        (.element ⟨spaceInside outer attributes, name⟩ (ownAttributes attributes) [])
  | filled {outer : Option String} {name : String} {tag inner : List Char}
      {attributes : List (String × String)} {children : List Content}
      (isName : isUnqualified name.toList = true) (isTag : IsTag tag attributes)
      (isContent : IsContent (spaceInside outer attributes) inner children) :
      IsElement outer
        ('<' :: (name.toList ++ (tag ++ '>' :: (inner ++ '<' :: '/' :: (name.toList ++ ['>'])))))
        (.element ⟨spaceInside outer attributes, name⟩ (ownAttributes attributes) children)

/-- The content of an element: elements with character data around them. -/
inductive IsContent : Option String → List Char → List Content → Prop where
  | text {space : Option String} {written text : List Char}
      (isText : IsCharacterData written text) : IsContent space written (textNode text)
  | element {space : Option String} {written text element rest : List Char} {item : Content}
      {items : List Content} (isText : IsCharacterData written text)
      (isElement : IsElement space element item) (isRest : IsContent space rest items) :
      IsContent space (written ++ (element ++ rest)) (textNode text ++ item :: items)

end

/-- The declaration in front of a document. -/
def declarationText : String := "<?xml version=\"1.0\" encoding=\"UTF-8\"?>"

/-- A document with its root element. -/
inductive IsDocument : String → Content → Prop where
  | declared {before element after : List Char} {root : Content}
      (blankBefore : ∀ c ∈ before, isSpace c = true) (isElement : IsElement none element root)
      (blankAfter : ∀ c ∈ after, isSpace c = true) :
      IsDocument (String.ofList (declarationText.toList ++ (before ++ (element ++ after)))) root

/-! ## Texts and values that are written -/

theorem isReference_escape {c : Char} (marked : isMarked c = true) : IsReference (escape c) c := by
  rcases eq_of_isMarked marked with rfl | rfl | rfl | rfl | rfl
  · exact .ampersand
  · exact .lessThan
  · exact .greaterThan
  · exact .quotationMark
  · exact .apostrophe

theorem ordinary_of_not_isMarked {c : Char} (plain : isMarked c = false) :
    c ≠ '<' ∧ c ≠ '&' ∧ c ≠ '"' := by
  refine ⟨?_, ?_, ?_⟩
  all_goals
    rintro rfl
    exact absurd plain (by decide)

theorem isText_escaped {cs : List Char} (allowed : ∀ c ∈ cs, isAllowed c = true) :
    IsText (cs.flatMap escape) cs := by
  induction cs with
  | nil => exact .nil
  | cons c rest ih =>
      have later := ih fun d member => allowed d (List.mem_cons_of_mem c member)
      rw [List.flatMap_cons]
      cases marked : isMarked c with
      | true => exact .reference (isReference_escape marked) later
      | false =>
          have here := allowed c (List.mem_cons_self ..)
          rcases ordinary_of_not_isMarked marked with ⟨noTag, noReference, _⟩
          rw [escape_of_not_isMarked marked, if_pos here]
          exact .char here noTag noReference later

theorem isCharacterData_escaped {cs : List Char} (allowed : ∀ c ∈ cs, isAllowed c = true) :
    IsCharacterData (cs.flatMap escape) cs := by
  refine ⟨isText_escaped allowed, ?_⟩
  intro sectionEnd
  have member : '>' ∈ cs.flatMap escape := sectionEnd.subset (by simp)
  exact (mem_flatMap_escape member).2.2.1 rfl

theorem isValue_escaped {cs : List Char} (allowed : ∀ c ∈ cs, isAllowed c = true) :
    IsValue (cs.flatMap escape) (cs.map fun c => if isSpace c then ' ' else c) := by
  induction cs with
  | nil => exact .nil
  | cons c rest ih =>
      have later := ih fun d member => allowed d (List.mem_cons_of_mem c member)
      have here := allowed c (List.mem_cons_self ..)
      rw [List.flatMap_cons, List.map_cons]
      cases marked : isMarked c with
      | true =>
          have noBlank : isSpace c = false := by
            rcases eq_of_isMarked marked with rfl | rfl | rfl | rfl | rfl <;> rfl
          rw [noBlank]
          exact .reference (isReference_escape marked) later
      | false =>
          rcases ordinary_of_not_isMarked marked with ⟨noTag, noReference, noEnd⟩
          rw [escape_of_not_isMarked marked, if_pos here]
          cases blank : isSpace c with
          | true => exact .blank blank later
          | false => exact .char here blank noTag noReference noEnd later

/-! ## Tags that are written -/

theorem isAttributes_printed {attributes : List (String × String)}
    (plain : ∀ a ∈ attributes, isUnqualified a.1.toList = true) :
    IsAttributes (printedAttributes (attributes.map fun a => (a.1, reportedText a.2)))
      (attributes.map fun a => (a.1, reportedValue a.2)) := by
  induction attributes with
  | nil => exact .nil
  | cons a attributes ih =>
      rcases a with ⟨name, value⟩
      have later := ih fun b member => plain b (List.mem_cons_of_mem _ member)
      have namePlain := plain (name, value) (List.mem_cons_self ..)
      have written := isValue_escaped (isPlain_reportedText value).2
      have blank : ∀ c ∈ [' '], isSpace c = true := by simp [isSpace]
      have first := IsAttributes.cons (List.cons_ne_nil ' ' []) blank namePlain written later
      rw [← reportedValue_eq] at first
      simpa [printedAttributes, escaped] using first

/-- Simple attributes make a tag that declares no namespace. -/
theorem isTag_printed {attributes : List (String × String)} (simple : SimpleAttributes attributes) :
    IsTag (printedAttributes (attributes.map fun a => (a.1, reportedText a.2)))
      (attributes.map fun a => (a.1, reportedValue a.2)) where
  isAttributes := isAttributes_printed simple.isUnqualified
  distinct := by simpa [Function.comp_def] using simple.2
  declarable := by
    intro space member
    rcases List.mem_map.mp member with ⟨a, found, pair⟩
    have named : a.1 = spaceAttribute := congrArg Prod.fst pair
    have isName := simple.1 a found
    rw [named] at isName
    exact absurd isName (by decide)

/-! ## Elements that are laid out -/

theorem lookup_spaceAttribute {attributes : List (String × String)}
    (other : ∀ a ∈ attributes, a.1 ≠ spaceAttribute) : attributes.lookup spaceAttribute = none := by
  rw [List.lookup_eq_none_iff]
  intro a member
  simpa using Ne.symm (other a member)

theorem ne_spaceAttribute {attributes : List (String × String)}
    (simple : SimpleAttributes attributes) (f : String → String) :
    ∀ a ∈ attributes.map fun a => (a.1, f a.2), a.1 ≠ spaceAttribute := by
  intro a member named
  rcases List.mem_map.mp member with ⟨b, found, rfl⟩
  have isName := simple.1 b found
  change b.1 = spaceAttribute at named
  rw [named] at isName
  exact absurd isName (by decide)

/-- Inside a simple tag, the namespace is that around it. -/
theorem spaceInside_simple {attributes : List (String × String)}
    (simple : SimpleAttributes attributes) (f : String → String) (outer : Option String) :
    spaceInside outer (attributes.map fun a => (a.1, f a.2)) = outer := by
  rw [spaceInside, lookup_spaceAttribute (ne_spaceAttribute simple f), Option.none_or]

theorem ownAttributes_simple {attributes : List (String × String)}
    (simple : SimpleAttributes attributes) :
    ownAttributes (attributes.map fun a => (a.1, reportedValue a.2)) =
      readBackAttributes (attributes.map fun a => (a.1, reportedText a.2)) := by
  have all : ∀ a ∈ attributes.map fun a => (a.1, reportedValue a.2),
      (a.1 != spaceAttribute) = true := by
    intro a member
    simpa using ne_spaceAttribute simple reportedValue a member
  rw [ownAttributes, List.filter_eq_self.mpr all, readBackAttributes, List.map_map, List.map_map]
  apply List.map_congr_left
  intro a _
  simp only [Function.comp_apply, readBackValue_reportedText]

theorem isCharacterData_gap (level : Nat) : IsCharacterData (gap level) (gap level) := by
  have escaped := isCharacterData_escaped (isPlain_gap level).2
  rwa [escape_gap] at escaped

theorem textNode_reportedText (s : String) :
    textNode (reportedText s).toList = textNodes (reportedText s) := by
  rw [textNodes_reportedText, textNode, String.ofList_toList]
  simp only [String.toList_eq_nil_iff]

theorem textNode_gap (level : Nat) : textNode (gap level) = [.text (String.ofList (gap level))] :=
  rfl

namespace Markup

/-- An element as it is laid out, where a default namespace is in force. -/
def IsLaidOut (m : Markup) : Prop :=
  ∀ (space : Option String) (level : Nat),
    IsElement space ('<' :: (m.mapText reportedText).tagged level)
      ((m.mapText reportedText).content space level)

/-- Elements on lines of their own are the content of an element. -/
theorem isContent_inside {children : List Markup} (each : ∀ child ∈ children, child.IsLaidOut)
    (space : Option String) (level : Nat) :
    IsContent space (inside level (children.map (mapText reportedText)))
      (contents space level (children.map (mapText reportedText))) := by
  induction children with
  | nil =>
      rw [List.map_nil, inside_nil, contents, ← textNode_gap]
      exact .text (isCharacterData_gap level)
  | cons child others ih =>
      have first := each child (List.mem_cons_self ..) space (level + 1)
      have later := ih fun m member => each m (List.mem_cons_of_mem _ member)
      have content := IsContent.element (isCharacterData_gap (level + 1)) first later
      rw [textNode_gap] at content
      rw [List.map_cons, inside_cons, contents]
      exact content

theorem isLaidOut_empty {name : String} {attributes : List (String × String)}
    (isName : isSimpleName name = true) (simple : SimpleAttributes attributes) :
    (Markup.empty name attributes).IsLaidOut := by
  intro space level
  have element := @IsElement.empty space _ _ _ (isUnqualified_of_isSimpleName isName)
    (isTag_printed simple)
  rwa [spaceInside_simple simple, ownAttributes_simple simple] at element

theorem isLaidOut_text {name s : String} (isName : isSimpleName name = true) :
    (Markup.text name s).IsLaidOut := by
  intro space level
  have isContent : IsContent space (escaped (reportedText s)) (textNodes (reportedText s)) := by
    have data := isCharacterData_escaped (isPlain_reportedText s).2
    have content := @IsContent.text space _ _ data
    rwa [textNode_reportedText] at content
  have element := @IsElement.filled space _ _ _ _ _ (isUnqualified_of_isSimpleName isName)
    (isTag_printed simpleAttributes_nil) isContent
  simpa [tagged, content, mapText, endTag, printedAttributes, spaceInside, ownAttributes]
    using element

theorem isLaidOut_block {name : String} {attributes : List (String × String)}
    {children : List Markup} (isName : isSimpleName name = true)
    (simple : SimpleAttributes attributes) (each : ∀ child ∈ children, child.IsLaidOut) :
    (Markup.block name attributes children).IsLaidOut := by
  intro space level
  have inner := isContent_inside each space level
  rw [← spaceInside_simple simple reportedValue space] at inner
  have element := IsElement.filled (isUnqualified_of_isSimpleName isName)
    (isTag_printed simple) inner
  rw [spaceInside_simple simple, ownAttributes_simple simple] at element
  simpa [tagged, content, mapText, mapTextAll_eq_map, endTag] using element

/-- An element with simple names is an element of the grammar. -/
theorem Simple.isLaidOut {m : Markup} (simple : m.Simple) : m.IsLaidOut := by
  induction simple with
  | empty isName attributes => exact isLaidOut_empty isName attributes
  | text isName => exact isLaidOut_text isName
  | block isName attributes inner each => exact isLaidOut_block isName attributes each

end Markup

/-! ## Documents that are laid out -/

theorem firstLine_eq : firstLine = declarationText.toList ++ ['\n'] := by
  decide +kernel

theorem reportedText_eq_self {s : String} (plain : IsPlain s.toList) : reportedText s = s :=
  LineEnds.normalized.ofText_eq_self plain

theorem reportedValue_eq_readBackValue {s : String} (plain : IsPlain s.toList) :
    reportedValue s = readBackValue s := by
  rw [← readBackValue_reportedText, reportedText_eq_self plain]

/-- The tag of a root element declares the default namespace and nothing else. -/
theorem isTag_default {space : String} (plain : IsPlain space.toList)
    (same : readBackValue space = space)
    (declarable : space ≠ "" ∧ space ≠ xmlSpace ∧ space ≠ declarationSpace) :
    IsTag (printedAttributes [(spaceAttribute, space)]) [(spaceAttribute, space)] := by
  have printed := isAttributes_printed (@Markup.isUnqualified_xmlns space)
  simp only [List.map_cons, List.map_nil, reportedText_eq_self plain,
    reportedValue_eq_readBackValue plain, same] at printed
  refine ⟨printed, by simp, ?_⟩
  intro declared member
  rcases List.mem_singleton.mp member with ⟨rfl⟩
  exact declarable

namespace Markup

theorem isElement_rooted {name space : String} (isName : isSimpleName name = true)
    (plain : IsPlain space.toList) (same : readBackValue space = space)
    (declarable : space ≠ "" ∧ space ≠ xmlSpace ∧ space ≠ declarationSpace)
    {children : List Markup} (simple : ∀ child ∈ children, child.Simple) :
    IsElement none ('<' :: (rooted name space (children.map (mapText reportedText))).tagged 0)
      (.element ⟨some space, name⟩ []
        (contents (some space) 0 (children.map (mapText reportedText)))) := by
  have inner := isContent_inside (fun child member => (simple child member).isLaidOut)
    (some space) 0
  have inside : spaceInside none [(spaceAttribute, space)] = some space := rfl
  have own : ownAttributes [(spaceAttribute, space)] = [] := rfl
  rw [← inside] at inner
  have element := IsElement.filled (isUnqualified_of_isSimpleName isName)
    (isTag_default plain same declarable) inner
  rw [inside, own] at element
  simpa [rooted, tagged, endTag, spaceAttribute] using element

/-- What is laid out is a document of the grammar, once its line ends are normalized. -/
theorem isDocument_print {name space : String} (isName : isSimpleName name = true)
    (plain : IsPlain space.toList) (same : readBackValue space = space)
    (declarable : space ≠ "" ∧ space ≠ xmlSpace ∧ space ≠ declarationSpace)
    {children : List Markup} (simple : ∀ child ∈ children, child.Simple) :
    IsDocument (LineEnds.normalized.ofDocument (rooted name space children).print)
      (.element ⟨some space, name⟩ []
        (contents (some space) 0 (children.map (mapText reportedText)))) := by
  have lineEnd : ∀ c ∈ ['\n'], isSpace c = true := by simp [isSpace]
  have element := isElement_rooted isName plain same declarable simple
  rw [ofDocument_print LineEnds.normalized isName plain simple, ofText_normalized]
  generalize rooted name space (children.map (mapText reportedText)) = root at element ⊢
  have written : root.print.toList =
      declarationText.toList ++ (['\n'] ++ ('<' :: root.tagged 0 ++ ['\n'])) := by
    rw [toList_print, firstLine_eq, printed_eq, List.append_assoc]
    rfl
  have document := IsDocument.declared lineEnd element lineEnd
  rwa [← written, String.ofList_toList] at document

end Markup

end ComponentGen.Xml

import ComponentGen.Xml.Reader
import ComponentGen.Proofs.Text.Trim
import ComponentGen.Proofs.Xml.WrittenText
import Mathlib.Data.List.TakeDrop

/-!
# Written tags as they are read back

A name without a qualifier is read as it is written, and so are the attributes of a start tag:
nothing in an escaped value ends it, and its references are resolved.
-/

namespace ComponentGen.Xml

open Text

/-! ## Characters up to a mark -/

theorem after?_of_not_isPrefix {mark cs : List Char} (absent : ¬ mark <+: cs) :
    after? mark cs = none := by
  simp [after?, absent]

/-- There is no cut if a character of the mark is missing. -/
theorem cutAt?_eq_none {mark cs : List Char} {c : Char} (inMark : c ∈ mark) (absent : c ∉ cs) :
    cutAt? mark cs = none := by
  induction cs with
  | nil => rfl
  | cons d cs ih =>
      have none : after? mark (d :: cs) = none :=
        after?_of_not_isPrefix fun start => absent (start.subset inMark)
      rw [cutAt?, none, ih fun member => absent (List.mem_cons_of_mem d member)]
      rfl

/-- A text is cut at the first occurrence of a character. -/
theorem cutAt?_append {c : Char} {front : List Char} (absent : c ∉ front) (back : List Char) :
    cutAt? [c] (front ++ c :: back) = some (front, back) := by
  induction front with
  | nil => simp [cutAt?, after?]
  | cons d front ih =>
      simp only [List.mem_cons, not_or] at absent
      have none : after? [c] (d :: (front ++ c :: back)) = none :=
        after?_of_not_isPrefix fun start => absent.1 (by simpa using start)
      rw [List.cons_append, cutAt?, none, ih absent.2]
      rfl

/-! ## Names -/

/-- Names without a qualifier. -/
def isUnqualified (name : List Char) : Bool :=
  name.head?.any isNameStart && name.all isNameChar && !name.contains ':'

/-- Names without a qualifier that declare no namespace. -/
def isSimpleName (name : String) : Bool :=
  isUnqualified name.toList && name.toList != declarationName

/-- A name as it is read. -/
def unqualified (name : String) : QualifiedName := ⟨[], name.toList⟩

theorem isUnqualified_of_isSimpleName {name : String} (simple : isSimpleName name = true) :
    isUnqualified name.toList = true :=
  (Bool.and_eq_true_iff.mp simple).1

theorem isNameStart_of_isUnqualified {name : List Char} (plain : isUnqualified name = true) :
    ∃ c rest, name = c :: rest ∧ isNameStart c = true := by
  simp only [isUnqualified, Bool.and_eq_true] at plain
  cases name with
  | nil => simp at plain
  | cons c rest => exact ⟨c, rest, rfl, by simpa using plain.1.1⟩

theorem readQualifiedName?_append {name : String} (plain : isUnqualified name.toList = true)
    {rest : List Char} (ends : ∀ c ∈ rest.head?, isNameChar c = false) :
    readQualifiedName? (name.toList ++ rest) = some (unqualified name, rest) := by
  simp only [isUnqualified, Bool.and_eq_true, List.all_eq_true, Bool.not_eq_true',
    List.contains_eq_mem, decide_eq_false_iff_not] at plain
  rcases plain with ⟨⟨starts, all⟩, noColon⟩
  have whole : name.toList.span (· != ':') = (name.toList, []) := by
    have ordinary : ∀ c ∈ name.toList, (c != ':') = true := by
      intro c member
      rw [bne_iff_ne]
      rintro rfl
      exact noColon member
    have noEnd : ∀ c ∈ ([] : List Char).head?, (c != ':') = false := by simp
    simpa using span_append ordinary noEnd
  simp only [readQualifiedName?, span_append all ends, whole]
  simp [noColon, starts, unqualified]

/-- The characters that a name starts with have no other meaning in a tag. -/
theorem ordinary_of_isNameStart {c : Char} (starts : isNameStart c = true) :
    isSpace c = false ∧ c ≠ '/' ∧ c ≠ '>' ∧ c ≠ '!' ∧ c ≠ '?' := by
  refine ⟨?_, ?_, ?_, ?_, ?_⟩
  · cases space : isSpace c with
    | false => rfl
    | true =>
        simp only [isSpace, Bool.or_eq_true, beq_iff_eq] at space
        rcases space with ((rfl | rfl) | rfl) | rfl <;> exact absurd starts (by decide)
  all_goals
    rintro rfl
    exact absurd starts (by decide)

/-! ## Attributes -/

/-- The attributes of a start tag as they are written. -/
def writtenAttributes (attributes : List (String × String)) :
    List (QualifiedName × List Char) :=
  attributes.map fun a => (unqualified a.1, escaped a.2)

/-- The value that is read back from a written one. -/
def readBackValue (value : String) : String :=
  String.ofList (attributeContent (writtenPieces value.toList))

/-- The attributes that are read back from written ones. -/
def readBackAttributes (attributes : List (String × String)) : List Attribute :=
  attributes.map fun a => ⟨⟨none, a.1⟩, readBackValue a.2⟩

theorem attributeValue?_escaped (value : String) :
    attributeValue? (escaped value) = some (readBackValue value) := by
  rw [attributeValue?, escaped, pieces?_escape]
  rfl

theorem readAttribute?_append {name : String} (plain : isUnqualified name.toList = true)
    (value : String) (rest : List Char) :
    readAttribute? (name.toList ++ '=' :: '"' :: (escaped value ++ '"' :: rest)) =
      some ((unqualified name, escaped value), rest) := by
  have ends : ∀ c ∈ ('=' :: '"' :: (escaped value ++ '"' :: rest)).head?,
      isNameChar c = false := by
    rintro c (_ | _)
    rfl
  have noQuote : '"' ∉ escaped value := fun member => (mem_flatMap_escape member).2.2.2 rfl
  have allowed : (escaped value).all (fun c => isAllowed c && c != '<') = true := by
    rw [List.all_eq_true]
    intro c member
    rcases mem_flatMap_escape member with ⟨allowed, noTag, _⟩
    simp [allowed, noTag]
  simp [readAttribute?, readQualifiedName?_append plain ends, skipSpace, isSpace,
    cutAt?_append noQuote, allowed]

/-- What ends a start tag. -/
def TagEnd.written : TagEnd → List Char
  | opened => ['>']
  | closed => ['/', '>']

/-- Behind a blank, the start of a name is the start of an attribute. -/
theorem readAttributes?_cons {c : Char} (starts : isNameStart c = true) (cs : List Char)
    (fuel : Nat) :
    readAttributes? (fuel + 1) (' ' :: c :: cs) = do
      let (first, rest) ← readAttribute? (c :: cs)
      let (others, tagEnd, rest) ← readAttributes? fuel rest
      return (first :: others, tagEnd, rest) := by
  rcases ordinary_of_isNameStart starts with ⟨noSpace, noSlash, noEnd, _, _⟩
  have skipped : skipSpace (' ' :: c :: cs) = c :: cs := by
    rw [skipSpace, List.dropWhile_cons_of_pos (by decide),
      List.dropWhile_cons_of_neg (by simp [noSpace])]
  rw [readAttributes?, skipped]
  split
  · simp_all
  · simp_all
  · rfl

theorem readAttributes?_written (attributes : List (String × String))
    (plain : ∀ a ∈ attributes, isUnqualified a.1.toList = true) (tagEnd : TagEnd)
    (rest : List Char) {fuel : Nat} (enough : attributes.length < fuel) :
    readAttributes? fuel (printedAttributes attributes ++ (tagEnd.written ++ rest)) =
      some (writtenAttributes attributes, tagEnd, rest) := by
  induction attributes generalizing fuel with
  | nil =>
      cases fuel with
      | zero => simp at enough
      | succ fuel => cases tagEnd <;> rfl
  | cons a attributes ih =>
      rcases a with ⟨name, value⟩
      cases fuel with
      | zero => simp at enough
      | succ fuel =>
          have later := ih (fun a member => plain a (List.mem_cons_of_mem _ member))
            (Nat.lt_of_succ_lt_succ enough)
          have namePlain := plain (name, value) (List.mem_cons_self ..)
          have first := readAttribute?_append namePlain value
            (printedAttributes attributes ++ (tagEnd.written ++ rest))
          rcases isNameStart_of_isUnqualified namePlain with ⟨c, name', nameEq, starts⟩
          rw [nameEq, List.cons_append] at first
          have written : printedAttributes ((name, value) :: attributes) ++
              (tagEnd.written ++ rest) =
                ' ' :: c :: (name' ++ '=' :: '"' :: (escaped value ++ '"' ::
                  (printedAttributes attributes ++ (tagEnd.written ++ rest)))) := by
            simp [printedAttributes, nameEq]
          rw [written, readAttributes?_cons starts, first]
          simp [later, writtenAttributes]

/-! ## Namespaces -/

/-- Attributes that can stand together in a start tag without declaring a namespace. -/
def SimpleAttributes (attributes : List (String × String)) : Prop :=
  (∀ a ∈ attributes, isSimpleName a.1 = true) ∧ (attributes.map (·.1)).Nodup

theorem simpleAttributes_nil : SimpleAttributes [] :=
  ⟨fun _ member => (List.not_mem_nil member).elim, List.nodup_nil⟩

theorem SimpleAttributes.isUnqualified {attributes : List (String × String)}
    (simple : SimpleAttributes attributes) :
    ∀ a ∈ attributes, isUnqualified a.1.toList = true :=
  fun a member => isUnqualified_of_isSimpleName (simple.1 a member)

theorem mapM_attributeValue? (attributes : List (String × String)) :
    (writtenAttributes attributes).mapM
        (fun w => (attributeValue? w.2).map fun value => (w.1, value)) =
      some (attributes.map fun a => (unqualified a.1, readBackValue a.2)) := by
  induction attributes with
  | nil => rfl
  | cons a attributes ih =>
      change List.mapM _ ((unqualified a.1, escaped a.2) :: writtenAttributes attributes) = _
      rw [List.mapM_cons, ih, attributeValue?_escaped]
      rfl

theorem isDeclaration_unqualified {name : String} (simple : isSimpleName name = true) :
    (unqualified name).isDeclaration = false := by
  have other : name.toList ≠ declarationName := by
    simpa using (Bool.and_eq_true_iff.mp simple).2
  rw [QualifiedName.isDeclaration, Bool.or_eq_false_iff, beq_eq_false_iff_ne,
    beq_eq_false_iff_ne]
  exact ⟨(List.cons_ne_nil _ _).symm, other⟩

theorem resolveAttributes?_unqualified (scope : Scope) {attributes : List (String × String)}
    (distinct : (attributes.map (·.1)).Nodup) :
    resolveAttributes? scope (attributes.map fun a => (unqualified a.1, readBackValue a.2)) =
      some (readBackAttributes attributes) := by
  induction attributes with
  | nil => rfl
  | cons a attributes ih =>
      rw [List.map_cons, List.nodup_cons] at distinct
      have others := ih distinct.2
      have fresh : (readBackAttributes attributes).any
          (·.name == (⟨none, a.1⟩ : ExpandedName)) = false := by
        rw [List.any_eq_false]
        intro other member same
        rcases List.mem_map.mp member with ⟨b, found, rfl⟩
        have nameEq : b.1 = a.1 := by simpa using same
        exact distinct.1 (nameEq ▸ List.mem_map_of_mem found)
      have space : attributeSpace? scope (unqualified a.1).qualifier = some none := rfl
      have base : String.ofList (unqualified a.1).base = a.1 := String.ofList_toList
      rw [List.map_cons, resolveAttributes?, space, others]
      simp only [Option.bind_eq_bind, Option.bind_some, base, fresh]
      rfl

/-- Simple attributes are read back without a change of namespaces. -/
theorem resolveTag?_written (outer : Scope) {attributes : List (String × String)}
    (simple : SimpleAttributes attributes) :
    resolveTag? outer (writtenAttributes attributes) =
      some (outer, readBackAttributes attributes) := by
  generalize valuedEq :
    (attributes.map fun a => (unqualified a.1, readBackValue a.2)) = valued
  have ordinary : ∀ v ∈ valued, v.1.isDeclaration = false := by
    intro v member
    rw [← valuedEq] at member
    rcases List.mem_map.mp member with ⟨a, found, rfl⟩
    exact isDeclaration_unqualified (simple.1 a found)
  have split : valued.partition (·.1.isDeclaration) = ([], valued) := by
    rw [List.partition_eq_filter_filter, Prod.mk.injEq, List.filter_eq_nil_iff,
      List.filter_eq_self]
    constructor <;> intro v member <;> simp [ordinary v member]
  rw [resolveTag?, mapM_attributeValue?, valuedEq]
  simp only [Option.bind_eq_bind, Option.bind_some, split, List.foldlM_nil]
  rw [← valuedEq]
  simp [resolveAttributes?_unqualified _ simple.2]

/-- The default namespace of a document is declared at its root. -/
theorem resolveTag?_default {space : String} (same : readBackValue space = space)
    (notXml : space ≠ xmlSpace) (notDeclaration : space ≠ declarationSpace) :
    resolveTag? [] (writtenAttributes [("xmlns", space)]) = some ([([], space)], []) := by
  have declared : declare? [] (unqualified "xmlns") space = some [([], space)] := by
    have noQualifier : (unqualified "xmlns").qualifier ≠ declarationName :=
      (List.cons_ne_nil _ _).symm
    simp [declare?, noQualifier, notXml, notDeclaration]
  have split : [(unqualified "xmlns", space)].partition (·.1.isDeclaration) =
      ([(unqualified "xmlns", space)], []) := rfl
  rw [resolveTag?, mapM_attributeValue?]
  simp only [List.map_cons, List.map_nil, same, Option.bind_eq_bind, Option.bind_some, split,
    List.foldlM_cons, List.foldlM_nil, declared]
  rfl

end ComponentGen.Xml

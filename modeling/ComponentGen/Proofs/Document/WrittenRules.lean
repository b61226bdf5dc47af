import ComponentGen.Proofs.Document.ReadBack
import ComponentGen.Proofs.Document.Rules

/-!
# The rules in written documents

Validation looks at the texts in a document before it is written as XML.  A text may hold
characters that no XML document may hold, and these are left out; and tabs and line ends in values
of attributes are reported as spaces.  So what is read back of a valid document need not be valid:
a text may have become blank, and two names of operations may have become one.

For each rule it is said exactly when what is read back keeps it.  Where nothing is left out of
the texts that are checked, and names of operations hold no tabs or line ends, it is valid.
-/

namespace ComponentGen.Document

open Text Xml

/-! ## Texts that can be seen -/

/-- A text with a character that a document may hold and that is not white space. -/
def StaysVisible (s : String) : Prop :=
  ∃ c ∈ s.toList, isAllowed c = true ∧ Text.isSpace c = false

instance : DecidablePred StaysVisible := fun s =>
  decidable_of_iff (s.toList.any fun c => isAllowed c && !Text.isSpace c) <| by
    simp [StaysVisible, List.any_eq_true]

/-- A text of which nothing is left out. -/
def IsKept (s : String) : Prop := ∀ c ∈ s.toList, isAllowed c = true

instance : DecidablePred IsKept := fun s =>
  decidable_of_iff (s.toList.all isAllowed) <| by
    simp [IsKept]

/-- A text in which every blank is a space. -/
def HasSpacesOnly (s : String) : Prop := ∀ c ∈ s.toList, Xml.isSpace c = true → c = ' '

instance : DecidablePred HasSpacesOnly := fun s =>
  decidable_of_iff (s.toList.all fun c => !Xml.isSpace c || c == ' ') <| by
    simp [HasSpacesOnly, Decidable.imp_iff_not_or]

/-- A text can be seen if there is more than white space in it and nothing is left out of it. -/
theorem IsKept.staysVisible {s : String} (kept : IsKept s) (nonBlank : isBlank s = false) :
    StaysVisible s := by
  obtain ⟨c, member, visible⟩ := List.all_eq_false.mp nonBlank
  exact ⟨c, member, kept c member, by simpa using visible⟩

theorem IsKept.reportedValue_eq {s : String} (kept : IsKept s) (spaces : HasSpacesOnly s) :
    reportedValue s = s := by
  apply reportedValue_eq_self
  · constructor
    · intro member
      exact absurd (spaces '\r' member rfl) (by decide)
    · exact kept
  · exact spaces

theorem all_isSpace_filter_eq_false_iff (s : String) :
    (s.toList.filter isAllowed).all Text.isSpace = false ↔ StaysVisible s := by
  rw [List.all_eq_false, StaysVisible]
  constructor
  · rintro ⟨c, member, visible⟩
    obtain ⟨inText, allowed⟩ := List.mem_filter.mp member
    exact ⟨c, inText, allowed, by simpa using visible⟩
  · rintro ⟨c, inText, allowed, visible⟩
    exact ⟨c, List.mem_filter.mpr ⟨inText, allowed⟩, by simp [visible]⟩

@[simp]
theorem isBlank_reportedText_eq_false_iff (s : String) :
    isBlank (reportedText s) = false ↔ StaysVisible s := by
  rw [isBlank_reportedText, all_isSpace_filter_eq_false_iff]

@[simp]
theorem isBlank_reportedValue_eq_false_iff (s : String) :
    isBlank (reportedValue s) = false ↔ StaysVisible s := by
  rw [isBlank_reportedValue, all_isSpace_filter_eq_false_iff]

/-- A text about the component as a whole is still there if it can be seen. -/
theorem saysNothing_cleanText_eq_false_iff (s : String) :
    saysNothing (cleanText s) = false ↔ StaysVisible s := by
  rw [← isBlank_reportedText_eq_false_iff, cleanText, nonBlank?]
  cases blank : isBlank (reportedText s) with
  | true => simp [saysNothing]
  | false =>
      -- What is left after trimming is not blank either, as it would be trimmed to nothing.
      have trimmed : isBlank (trim (reportedText s)) = false := by
        rw [← Bool.not_eq_true, ← trim_eq_empty_iff, trim_trim, trim_eq_empty_iff, blank]
        exact Bool.false_ne_true
      simpa [saysNothing] using trimmed

theorem saysNothing_bind_cleanText_eq_false_iff {text : Option String}
    (given : saysNothing text = false) :
    saysNothing (text.bind cleanText) = false ↔ ∀ s, text = some s → StaysVisible s := by
  cases text with
  | none => cases given
  | some s =>
      rw [Option.bind_some, saysNothing_cleanText_eq_false_iff]
      constructor
      · rintro visible s ⟨⟩
        exact visible
      · intro each
        exact each s rfl

/-! ## Titles and names -/

theorem Operation.titles_asReported (o : Operation) :
    o.asReported.titles = o.titles.map reportedValue := by
  simp only [titles, asReported, List.map_cons, List.map_append, List.map_map]
  rfl

theorem Service.titles_asReported (s : Service) :
    s.asReported.titles = s.titles.map reportedValue := by
  simp only [titles, asReported, List.map_append, List.map_map, List.map_flatMap,
    List.flatMap_map, Function.comp_def, Operation.titles_asReported]
  rfl

theorem Service.operationNames_asReported (s : Service) :
    s.asReported.operationNames = s.operationNames.map reportedValue := by
  simp only [operationNames, asReported, List.map_map]
  rfl

/-! ## The rules -/

namespace Component

/-- What the document of a component has to be like for a rule to be kept by what is read back of
it. -/
def KeepsOnceWritten (c : Component) : Rule → Prop
  | .requiredFields =>
      (∀ s, c.id = some s → StaysVisible s) ∧ ∀ s, c.version = some s → StaysVisible s
  | .serviceImplementation =>
      ∀ s ∈ c.services, StaysVisible s.name ∧ StaysVisible s.implementationClass
  | .uniqueOperationNames => ∀ s ∈ c.services, (s.operationNames.map reportedValue).Nodup
  | .configParamNameLength => True
  | .titlesPresent => ∀ s ∈ c.services, ∀ title ∈ s.titles, StaysVisible title

/-- What is read back of a valid document keeps a rule exactly if enough is left of the texts that
the rule is about. -/
theorem keeps_asReported_iff {c : Component} (valid : c.validate = .ok ()) (rule : Rule) :
    c.asReported.Keeps rule ↔ c.KeepsOnceWritten rule := by
  have keeps := validate_eq_ok_iff.mp valid
  cases rule with
  | requiredFields =>
      obtain ⟨id, version⟩ := keeps .requiredFields
      exact and_congr (saysNothing_bind_cleanText_eq_false_iff id)
        (saysNothing_bind_cleanText_eq_false_iff version)
  | serviceImplementation =>
      simp only [Keeps, KeepsOnceWritten, asReported, List.forall_mem_map, Service.asReported,
        isBlank_reportedValue_eq_false_iff, isBlank_reportedText_eq_false_iff]
  | uniqueOperationNames =>
      simp only [Keeps, KeepsOnceWritten, asReported, List.forall_mem_map,
        Service.operationNames_asReported]
  | configParamNameLength =>
      simp only [KeepsOnceWritten, iff_true, Keeps, asReported, List.forall_mem_map]
      intro s inServices p inService
      obtain ⟨p, inParams, rfl⟩ := List.mem_map.mp inService
      exact (length_reportedValue_le p.name).trans
        (keeps .configParamNameLength s inServices p inParams)
  | titlesPresent =>
      simp only [Keeps, KeepsOnceWritten, asReported, List.forall_mem_map,
        Service.titles_asReported, isBlank_reportedValue_eq_false_iff]

/-- A document in which the texts that are checked hold only characters that are written, and
names of operations neither tabs nor line ends. -/
structure IsWrittenWhole (c : Component) : Prop where
  id : ∀ s, c.id = some s → IsKept s
  version : ∀ s, c.version = some s → IsKept s
  services : ∀ s ∈ c.services, ∀ text ∈ s.name :: s.implementationClass :: s.titles, IsKept text
  operations : ∀ s ∈ c.services, ∀ name ∈ s.operationNames, IsKept name ∧ HasSpacesOnly name

theorem IsWrittenWhole.keepsOnceWritten {c : Component} (whole : c.IsWrittenWhole)
    (valid : c.validate = .ok ()) (rule : Rule) : c.KeepsOnceWritten rule := by
  have keeps := validate_eq_ok_iff.mp valid
  have given {text : Option String} {s : String} (notBlank : saysNothing text = false)
      (isSome : text = some s) : isBlank s = false := by
    rw [isSome] at notBlank
    simpa [saysNothing] using notBlank
  cases rule with
  | requiredFields =>
      obtain ⟨id, version⟩ := keeps .requiredFields
      constructor
      · intro s isSome
        exact (whole.id s isSome).staysVisible (given id isSome)
      · intro s isSome
        exact (whole.version s isSome).staysVisible (given version isSome)
  | serviceImplementation =>
      intro s member
      obtain ⟨name, implementation⟩ := keeps .serviceImplementation s member
      have kept := whole.services s member
      exact ⟨(kept _ (by simp)).staysVisible name, (kept _ (by simp)).staysVisible implementation⟩
  | uniqueOperationNames =>
      intro s member
      have same : ∀ name ∈ s.operationNames, reportedValue name = name := by
        intro name inService
        obtain ⟨kept, spaces⟩ := whole.operations s member name inService
        exact kept.reportedValue_eq spaces
      rw [List.map_congr_left same, List.map_id']
      exact keeps .uniqueOperationNames s member
  | configParamNameLength => trivial
  | titlesPresent =>
      intro s member title inService
      have kept := whole.services s member title (by simp [inService])
      exact kept.staysVisible (keeps .titlesPresent s member title inService)

/-! ## What is read back of a valid document -/

/-- A component whose name is left out of its document. -/
def vanishingShop : Component where
  id := some "\u0001"
  version := some "1"

/-- A valid document need not be valid when it is read back. -/
theorem not_forall_valid_readDocument? :
    ¬ ∀ c : Component, c.validate = .ok () →
        ∃ d, readDocument? (LineEnds.normalized.ofDocument (c.render .xml)) = some d ∧
          d.validate = .ok () := by
  intro always
  obtain ⟨d, read, valid⟩ := always vanishingShop (by decide)
  rw [readDocument?_render] at read
  cases read
  exact absurd valid (by decide)

/-- A valid document is read back as a document that keeps a rule exactly if enough is left of the
texts that the rule is about; names of configuration parameters are never too long.  If nothing
is left out of the texts that are checked, and names of operations hold neither tabs nor line
ends, it is valid. -/
theorem keeps_readDocument? {c : Component} (valid : c.validate = .ok ()) :
    ∃ d, readDocument? (LineEnds.normalized.ofDocument (c.render .xml)) = some d ∧
      (∀ rule, d.Keeps rule ↔ c.KeepsOnceWritten rule) ∧ d.Keeps .configParamNameLength ∧
      (d.validate = .ok () ↔ ∀ rule, c.KeepsOnceWritten rule) ∧
      (c.IsWrittenWhole → d.validate = .ok ()) := by
  have each := keeps_asReported_iff valid
  have all : c.asReported.validate = .ok () ↔ ∀ rule, c.KeepsOnceWritten rule := by
    rw [validate_eq_ok_iff]
    exact forall_congr' each
  refine ⟨c.asReported, readDocument?_render c, each, ?_, all, ?_⟩
  · exact (each .configParamNameLength).mpr trivial
  · intro whole
    exact all.mpr (whole.keepsOnceWritten valid)

/-- A component with one service, which has operations of some names. -/
def finderShop (operationNames : List String) : Component where
  id := some "shop"
  version := some "1.0"
  services :=
    [{ name := "Orders"
       implementationClass := "shop.Orders"
       operations := operationNames.map fun name => { name, title := "Find" } }]

theorem isWrittenWhole_finderShop : (finderShop ["find order"]).IsWrittenWhole where
  id := by
    rintro s ⟨⟩
    decide
  version := by
    rintro s ⟨⟩
    decide
  services := by
    intro s member
    rw [List.mem_singleton.mp member]
    decide
  operations := by
    intro s member
    rw [List.mem_singleton.mp member]
    decide

/-- Two names that differ by a tab only are one name when they are read back. -/
theorem keeps_readDocument?_finderShop :
    ((finderShop ["find order"]).validate = .ok () ∧
      ∃ d, readDocument? (LineEnds.normalized.ofDocument
          ((finderShop ["find order"]).render .xml)) = some d ∧ d.validate = .ok ()) ∧
    (finderShop ["find order", "find\torder"]).validate = .ok () ∧
      ∃ d, readDocument? (LineEnds.normalized.ofDocument
          ((finderShop ["find order", "find\torder"]).render .xml)) = some d ∧
        ¬ d.Keeps .uniqueOperationNames := by
  have validOne : (finderShop ["find order"]).validate = .ok () := by decide
  have validTwo : (finderShop ["find order", "find\torder"]).validate = .ok () := by decide
  obtain ⟨one, readOne, _, _, _, whole⟩ := keeps_readDocument? validOne
  obtain ⟨two, readTwo, each, _⟩ := keeps_readDocument? validTwo
  refine ⟨⟨validOne, one, readOne, whole isWrittenWhole_finderShop⟩, validTwo, two, readTwo, ?_⟩
  rw [each]
  intro distinct
  exact absurd (distinct _ (List.mem_singleton.mpr rfl)) (by decide)

end Component

end ComponentGen.Document

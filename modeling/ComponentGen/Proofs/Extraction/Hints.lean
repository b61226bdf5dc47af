import ComponentGen.Proofs.Extraction.Members
import ComponentGen.Proofs.Naming.SentenceEnds
import ComponentGen.Proofs.Source.TagComments

/-!
# Hints

Hints are first sentences, and a first sentence says nothing if a blank line stands in front of it.
A comment that a tag gives is trimmed first, so this cannot happen to it; what stands in a comment
on a class or a member, or in the tag on what is returned, is taken as it is.
-/

namespace ComponentGen.Extraction

open Document Naming Outcome Source Text

/-! ## Hints on a text -/

/-- What a hint tells of the text that it was taken from.  It starts with what the text starts
with, if it says anything; and it says nothing exactly if the text does not, or if the text opens
with a blank line. -/
structure IsHint (text hint : String) : Prop where
  blank_iff : isBlank hint = true ↔ isBlank text = true ∨ OpensBlank text.toList
  starts : isBlank hint = false → hint.toList.head? = (trimLeft text.toList).head?

/-- A first sentence is white space only if it is empty, or if there is nothing else to take. -/
theorem isBlank_firstSentence_iff {s : String} (present : isBlank s = false) :
    isBlank (firstSentence s) = true ↔ firstSentence s = "" := by
  rw [← trim_eq_empty_iff, trim_firstSentence present]

theorem isHint_firstSentence (s : String) : IsHint s (firstSentence s) := by
  cases present : isBlank s with
  | true =>
      rw [firstSentence_of_isBlank present]
      constructor
      case blank_iff => simp [present]
      case starts =>
        intro visible
        rw [present] at visible
        cases visible
  | false =>
      have blank_iff := isBlank_firstSentence_iff present
      constructor
      case blank_iff =>
        rw [blank_iff, firstSentence_eq_empty_iff present]
        simp [present]
      case starts =>
        intro visible
        apply head?_firstSentence present
        rw [ne_eq, ← blank_iff, visible]
        exact Bool.false_ne_true

theorem rel_isHint_map (text : Option String) :
    Option.Rel IsHint text (text.map firstSentence) := by
  cases text with
  | none => exact .none
  | some text => exact .some (isHint_firstSentence text)

/-! ## Hints on the comments of tags -/

/-- White space is the first thing in a text that opens with a blank line. -/
theorem exists_head?_of_opensBlank {cs : List Char} (opens : OpensBlank cs) :
    ∃ c ∈ cs.head?, isSpace c = true := by
  rcases opens with ⟨before, line, after, rfl, blank, spaces⟩
  rcases before with - | ⟨c, before⟩
  · rcases blank.exists_eq_cons with ⟨tail, rfl⟩
    exact ⟨'\n', rfl, rfl⟩
  · exact ⟨c, rfl, spaces c (List.mem_cons_self ..)⟩

theorem isBlank_firstSentence_of_isComment {comment : String} (given : IsComment comment) :
    isBlank (firstSentence comment) = false := by
  rw [← Bool.not_eq_true, (isHint_firstSentence comment).blank_iff]
  rintro (blank | opens)
  · -- Trimming would leave nothing, but it leaves the comment as it is.
    have nothing := (trim_eq_empty_iff comment).mpr blank
    rw [(trim_eq_self_iff comment).mpr given.trimmed] at nothing
    exact given.present nothing
  · rcases exists_head?_of_opensBlank opens with ⟨c, first, space⟩
    have visible := given.trimmed.1 c first
    rw [space] at visible
    cases visible

/-- A hint on what the tags of a member say on a word.  There is one if they say anything, and it
is never blank. -/
structure HintedFrom (m : Member) (tag word : String) (hint : Option String) : Prop where
  isHint : Option.Rel IsHint ((m.tagComments tag).on? word) hint
  visible : ∀ text ∈ hint, isBlank text = false

theorem hintedFrom_map (m : Member) (tag word : String) :
    HintedFrom m tag word (((m.tagComments tag).on? word).map firstSentence) := by
  constructor
  case isHint => exact rel_isHint_map _
  case visible =>
    intro text taken
    rcases Option.map_eq_some_iff.mp taken with ⟨comment, said, rfl⟩
    exact isBlank_firstSentence_of_isComment (isComment_of_on? said)

/-! ## The parts of a service -/

/-- The hints in an operation of a member.  Where tags are read, the hints on the operation and on
what it returns are whole texts and no first sentences. -/
structure OperationHints (s : Strategy) (m : Member) (o : Operation) : Prop where
  own : s.kind = .annotations → Option.Rel IsHint m.doc o.hint
  inputs : List.Forall₂
    (fun parameter (input : Document.Parameter) =>
      HintedFrom m paramTag parameter.name input.hint)
    m.parameters o.inputs
  outputs : s.kind = .annotations →
    ∀ output ∈ o.outputs, Option.Rel IsHint ((m.tag? returnTag).map (·.value)) output.hint
  faults : List.Forall₂
    (fun type (fault : Fault) => HintedFrom m throwsTag type.simple fault.hint) m.faults o.faults

/-- The hints in the service of a class. -/
structure ServiceHints (s : Strategy) (c : Source.Class) (service : Service) : Prop where
  own : Option.Rel IsHint c.doc service.hint
  operations : List.Forall₂ (OperationHints s) (s.operationMembers c) service.operations
  configParams : s.kind = .annotations →
    List.Forall₂ (fun m (p : ConfigParam) => Option.Rel IsHint m.doc p.hint)
      (c.members.filter s.isConfigParam) service.configParams

theorem hint_fillOperation {c : Source.Class} {m : Member} {existing : List String}
    {node : Operation} {filled : Noted Operation}
    (fills : Annotated.fillOperation c m existing node = .ok filled) :
    filled.value.hint = m.doc.map firstSentence := by
  rcases bind_eq_ok_iff.mp fills with ⟨named, _, done⟩
  cases pure_eq_ok_iff.mp done
  rfl

theorem hint_fillOutput? {m : Member} {output : Document.Parameter}
    (fills : Annotated.fillOutput? m {} = some output) :
    output.hint = ((m.tag? returnTag).map (·.value)).map firstSentence := by
  rcases Option.map_eq_some_iff.mp fills with ⟨type, _, rfl⟩
  dsimp only
  split
  case h_1 tag found =>
    rw [found]
    rfl
  case h_2 absent =>
    rw [absent]
    rfl

theorem operationHints_operation {s : Strategy} {c : Source.Class} {earlier : List String}
    {m : Member} {o : Noted Operation} (step : s.operation c earlier m = .ok o) :
    OperationHints s m o.value := by
  rcases map_eq_ok_iff.mp step with ⟨filled, fills, rfl⟩
  rcases s with ⟨kind, category⟩
  constructor
  case own =>
    rintro rfl
    have own := hint_fillOperation fills
    dsimp only
    rw [own]
    exact rel_isHint_map m.doc
  case inputs =>
    rw [List.forall₂_map_right_iff, List.forall₂_same]
    intro parameter _
    exact hintedFrom_map m paramTag parameter.name
  case outputs =>
    rintro rfl output member
    rw [hint_fillOutput? (Option.mem_toList.mp member)]
    exact rel_isHint_map _
  case faults =>
    rw [List.forall₂_map_right_iff, List.forall₂_same]
    intro type _
    exact hintedFrom_map m throwsTag type.simple

theorem hint_fillService {s : Strategy} {c : Source.Class} {described : Noted Service}
    (describes : s.fillService c {} = .ok described) :
    described.value.hint = c.doc.map firstSentence := by
  rcases s with ⟨kind, category⟩
  cases kind with
  | annotations =>
      rcases bind_eq_ok_iff.mp describes with ⟨factory, _, done⟩
      cases pure_eq_ok_iff.mp done
      rfl
  | doclets =>
      rcases bind_eq_ok_iff.mp describes with ⟨factory, _, done⟩
      cases pure_eq_ok_iff.mp done
      rfl

theorem hint_fillConfigParam? {m : Member} {p : ConfigParam}
    (fills : Annotated.fillConfigParam? m {} = some p) : p.hint = m.doc.map firstSentence := by
  rcases Option.map_eq_some_iff.mp fills with ⟨named, _, rfl⟩
  dsimp only
  split <;> rfl

theorem serviceHints_service {s : Strategy} {component : Component} {c : Source.Class}
    {noted : Noted Service} (built : s.service component c = .ok noted) :
    ServiceHints s c noted.value := by
  rcases Strategy.service_eq_ok_iff.mp built with ⟨described, operations, describes, run, rfl⟩
  constructor
  case own =>
    change Option.Rel IsHint c.doc described.value.hint
    rw [hint_fillService describes]
    exact rel_isHint_map c.doc
  case operations =>
    change List.Forall₂ (OperationHints s) (s.operationMembers c) (operations.map (·.value))
    rw [List.forall₂_map_right_iff]
    refine (Strategy.forall₂_operation run).imp ?_
    rintro m o ⟨earlier, step⟩
    exact operationHints_operation step
  case configParams =>
    intro annotated
    apply forall₂_filterMap
    intro m member
    rcases isConfigParamOf_fillConfigParam? s (List.of_mem_filter member) {} with ⟨p, filled, _⟩
    refine ⟨p, filled, ?_⟩
    rw [Strategy.fillConfigParam?, annotated] at filled
    rw [hint_fillConfigParam? filled]
    exact rel_isHint_map m.doc

/-- A text that is more than white space has an empty first sentence exactly if it opens with a
blank line; any other first sentence starts with what the text starts with.  So a hint in a
document that is made says nothing only where its text says nothing or opens with a blank line,
and what a tag says of a parameter or a fault does neither. -/
theorem hints_of_generate {s : Strategy} {prior : Option Component} {tree : Tree}
    {report : Report} (run : s.generate prior tree = .ok report) :
    (∀ text, isBlank text = false →
      (firstSentence text = "" ↔ OpensBlank text.toList) ∧
        (firstSentence text ≠ "" →
          (firstSentence text).toList.head? = (trimLeft text.toList).head?)) ∧
      List.Forall₂ (ServiceHints s) (s.serviceClasses tree) report.component.services := by
  constructor
  · intro text present
    exact ⟨firstSentence_eq_empty_iff present, head?_firstSentence present⟩
  · refine (Strategy.services_of_generate run).imp ?_
    rintro c service ⟨noted, built, rfl⟩
    exact serviceHints_service built

/-- Text alone does not make a hint say something. -/
theorem not_forall_firstSentence_ne_empty :
    ¬ ∀ text, isBlank text = false → firstSentence text ≠ "" := by
  intro always
  have empty : firstSentence "\n\nHello." = "" := by decide
  exact always "\n\nHello." (by decide) empty

/-! ## A class with comments that open with blank lines -/

/-- A class whose own comment, a tag on a parameter and a tag on what is returned leave a line
blank in front of what they say. -/
def describedClass : Source.Class where
  qualifiedName := "shop.Orders"
  doc := some "\n\nLists orders."
  annotations := [("Service", [])]
  members :=
    [{ name := "find"
       doc := some "Finds an order. Takes a key."
       tags :=
         [{ name := "param", value := "key\n\nThe key. Not empty." },
           { name := "return", value := "\n \nThe order." }]
       parameters := [{ name := "key", type := { name := "java.lang.String" } }]
       returnType := some { name := "shop.Order" } },
      { name := "setLimit"
        doc := some "\n The limit. Ten at first."
        parameters := [{ name := "limit", type := { name := "int" } }] }]

/-- The tree of that class. -/
def describedTree : Tree where
  classes := [describedClass]
  ordered := by simp

/-- The report on that tree. -/
def describedReport : Report where
  component :=
    { services :=
        [{ name := "Orders"
           implementationClass := "shop.Orders"
           hint := some ""
           description := some "\n\nLists orders."
           autoDeploy := some { serviceId := "Orders" }
           operations :=
             [{ name := "find"
                title := "Find"
                hint := some "Finds an order."
                description := some "Finds an order. Takes a key."
                inputs :=
                  [{ name := "key"
                     type := "java.lang.String"
                     title := "Key"
                     hint := some "The key."
                     description := some "The key. Not empty." }]
                outputs :=
                  [{ name := "out"
                     type := "shop.Order"
                     title := "out"
                     hint := some ""
                     description := some "\n \nThe order." }] }]
           configParams :=
             [{ name := "limit"
                type := "int"
                title := "Limit"
                hint := some "The limit."
                description := some "\n The limit. Ten at first." }] }] }

theorem generate_describedTree :
    ({ kind := .annotations } : Strategy).generate none describedTree = .ok describedReport := by
  decide +kernel

theorem hints_of_generate_describedTree :
    isBlank "\n\nLists orders." = false ∧ OpensBlank "\n\nLists orders.".toList ∧
      ({ kind := .annotations } : Strategy).generate none describedTree = .ok describedReport ∧
      List.Forall₂ (ServiceHints { kind := .annotations }) [describedClass]
        describedReport.component.services := by
  have present : isBlank "\n\nLists orders." = false := by decide
  have empty : firstSentence "\n\nLists orders." = "" := by decide
  rcases hints_of_generate generate_describedTree with ⟨texts, services⟩
  exact ⟨present, (texts _ present).1.mp empty, generate_describedTree, services⟩

end ComponentGen.Extraction

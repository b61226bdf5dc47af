import ComponentGen.Document.Markup
import ComponentGen.Proofs.Xml.Documents

/-!
# The markup of component documents

All names in a component document are simple, whatever the texts in it are.  So a document is
read back as it was laid out.
-/

namespace ComponentGen.Document

open Xml

/-! ## Names -/

/-- Attributes are simple if their names are taken from simple names in their order. -/
theorem simpleAttributes_of_sublist (names : List String)
    {attributes : List (String × String)}
    (simple : ∀ name ∈ names, isSimpleName name = true) (distinct : names.Nodup)
    (taken : (attributes.map (·.1)).Sublist names) : SimpleAttributes attributes :=
  ⟨fun _ member => simple _ (taken.subset (List.mem_map_of_mem member)), taken.nodup distinct⟩

theorem optionalAttribute_names (name : String) (value : Option String) :
    ((optionalAttribute name value).map (·.1)).Sublist [name] := by
  cases value <;> simp [optionalAttribute]

theorem simple_textElement {name : String} (isName : isSimpleName name = true)
    (content : Option String) : ∀ m ∈ textElement name content, m.Simple := by
  cases content with
  | none => simp [textElement]
  | some s => simpa [textElement] using Markup.Simple.text isName

theorem simple_blockOf {name : String} (isName : isSimpleName name = true)
    {children : List Markup} (simple : ∀ child ∈ children, child.Simple) :
    ∀ m ∈ blockOf name children, m.Simple := by
  cases children with
  | nil => simp [blockOf]
  | cons child rest => simpa [blockOf] using Markup.Simple.block isName simpleAttributes_nil simple

/-! ## Elements -/

theorem Parameter.simple_markup {element : String} (isName : isSimpleName element = true)
    (p : Parameter) : (p.markup element).Simple := by
  apply Markup.Simple.block isName
  · exact simpleAttributes_of_sublist ["name", "title", "type"] (by decide) (by decide) (by simp)
  · simp only [List.forall_mem_append]
    exact ⟨simple_textElement (by decide) _, simple_textElement (by decide) _⟩

theorem Fault.simple_markup (f : Fault) : f.markup.Simple := by
  apply Markup.Simple.block (by decide)
  · exact simpleAttributes_of_sublist ["name", "type", "title"] (by decide) (by decide) (by simp)
  · simp only [List.forall_mem_append]
    exact ⟨simple_textElement (by decide) _, simple_textElement (by decide) _⟩

theorem Operation.simple_markup (o : Operation) : o.markup.Simple := by
  have method := optionalAttribute_names "method" o.method
  apply Markup.Simple.block (by decide)
  · apply simpleAttributes_of_sublist ["name", "method", "title"] (by decide) (by decide)
    simpa using method.append_right ["title"]
  · simp only [List.forall_mem_append, List.forall_mem_map, and_assoc]
    exact ⟨simple_textElement (by decide) _, simple_textElement (by decide) _,
      simple_textElement (by decide) _, simple_textElement (by decide) _,
      fun p _ => p.simple_markup (by decide), fun p _ => p.simple_markup (by decide),
      simple_blockOf (by decide) (List.forall_mem_map.mpr fun f _ => f.simple_markup)⟩

theorem ConfigParam.simple_markup (c : ConfigParam) : c.markup.Simple := by
  have required := optionalAttribute_names "required" (c.required.map boolText)
  have property := optionalAttribute_names "property" c.property
  apply Markup.Simple.block (by decide)
  · apply simpleAttributes_of_sublist ["name", "type", "title", "required", "property"]
      (by decide) (by decide)
    simpa using required.append property
  · simp only [List.forall_mem_append, and_assoc]
    exact ⟨simple_textElement (by decide) _, simple_textElement (by decide) _,
      simple_textElement (by decide) _⟩

theorem AutoDeploy.simple_markup (a : AutoDeploy) : a.markup.Simple := by
  have major := optionalAttribute_names "major-version" (a.majorVersion.map Number.intText)
  have minor := optionalAttribute_names "minor-version" (a.minorVersion.map Number.intText)
  apply Markup.Simple.empty (by decide)
  apply simpleAttributes_of_sublist ["service-id", "category-id", "major-version", "minor-version"]
    (by decide) (by decide)
  simpa using major.append minor

theorem Service.simple_markup (s : Service) : s.markup.Simple := by
  have deployment : ∀ m ∈ (s.autoDeploy.map AutoDeploy.markup).toList, m.Simple := by
    cases s.autoDeploy with
    | none => simp
    | some a => simpa using a.simple_markup
  apply Markup.Simple.block (by decide)
  · exact simpleAttributes_of_sublist ["name"] (by decide) (by decide) (by simp)
  · simp only [List.forall_mem_append, List.forall_mem_singleton, List.forall_mem_map, and_assoc]
    exact ⟨.text (by decide), simple_textElement (by decide) _, deployment,
      simple_textElement (by decide) _, simple_textElement (by decide) _,
      simple_textElement (by decide) _, simple_textElement (by decide) _,
      simple_textElement (by decide) _, fun c _ => c.simple_markup,
      simple_blockOf (by decide) (List.forall_mem_map.mpr fun o _ => o.simple_markup)⟩

/-! ## Documents -/

/-- The elements below the root of a document. -/
def Component.elements (c : Component) : List Markup :=
  textElement "component-id" c.id ++ textElement "version" c.version ++
    textElement "bootstrap-class" c.bootstrapClass ++
    textElement "lifecycle-class" c.lifecycleClass ++
    textElement "class-path" c.classPath ++
    blockOf "services" (c.services.map Service.markup)

theorem Component.simple_elements (c : Component) : ∀ m ∈ c.elements, m.Simple := by
  simp only [elements, List.forall_mem_append, and_assoc]
  exact ⟨simple_textElement (by decide) _, simple_textElement (by decide) _,
    simple_textElement (by decide) _, simple_textElement (by decide) _,
    simple_textElement (by decide) _,
    simple_blockOf (by decide) (List.forall_mem_map.mpr fun s _ => s.simple_markup)⟩

theorem isPlain_documentSpace : IsPlain documentSpace.toList := by
  have allowed : documentSpace.toList.all isAllowed = true := by decide
  exact ⟨by decide, List.all_eq_true.mp allowed⟩

/-- A document is read back as it was laid out, but for the line ends in its texts. -/
theorem Component.read?_markup_print (ends : LineEnds) (c : Component) :
    read? (ends.ofDocument c.markup.print) =
      some (.element ⟨some documentSpace, "component"⟩ []
        (Markup.contents (some documentSpace) 0
          (c.elements.map (Markup.mapText ends.ofText)))) :=
  Markup.read?_ofDocument_print ends (by decide) isPlain_documentSpace (by decide) (by decide)
    (by decide) c.simple_elements

end ComponentGen.Document

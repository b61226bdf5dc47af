import ComponentGen.Document.Format
import ComponentGen.Document.Prior
import ComponentGen.Proofs.Document.Markup
import ComponentGen.Proofs.Xml.ReportedText

/-!
# Loading written documents

A document that was written as XML can always be loaded again.  Each text about the component as
a whole comes back cleaned: as it is read back and without blanks around it, if anything is left
of it.  A clean text comes back as it is, so loading a second time changes nothing more.
-/

namespace ComponentGen.Document

open Files Text Xml

/-! ## Clean texts -/

/-- What is loaded of a text that was written. -/
def cleaned (ends : LineEnds) (s : String) : Option String := nonBlank? (ends.readBack s)

/-- What was loaded is loaded again without a change. -/
theorem cleaned_of_cleaned {ends : LineEnds} {s t : String} (loaded : cleaned ends s = some t) :
    cleaned ends t = some t := by
  rcases (nonBlank?_eq_some_iff _ _).mp loaded with ⟨left, rfl⟩
  rw [cleaned, ends.readBack_trim_readBack, nonBlank?_eq_some_iff, trim_trim]
  exact ⟨left, rfl⟩

/-- A text without the characters that are left out of documents, with line feeds for line ends
and without blanks around it, if anything is left of it. -/
def cleanText (s : String) : Option String := nonBlank? (reportedText s)

theorem cleaned_normalized : cleaned .normalized = cleanText := by
  funext s
  rw [cleaned, LineEnds.readBack_normalized, cleanText]

/-- A text that is written as it is and that nothing is trimmed from. -/
structure IsClean (s : String) : Prop where
  nonBlank : isBlank s = false
  trimmed : trim s = s
  noReturn : '\r' ∉ s.toList
  written : ∀ c ∈ s.toList, escape c ≠ []

instance : DecidablePred IsClean := fun s =>
  decidable_of_iff
    (isBlank s = false ∧ trim s = s ∧ '\r' ∉ s.toList ∧
      s.toList.all (fun c => !(escape c).isEmpty) = true)
    ⟨fun ⟨nonBlank, trimmed, noReturn, written⟩ =>
      ⟨nonBlank, trimmed, noReturn, by simpa using written⟩,
    fun ⟨nonBlank, trimmed, noReturn, written⟩ =>
      ⟨nonBlank, trimmed, noReturn, by simpa using written⟩⟩

theorem IsClean.isPlain {s : String} (clean : IsClean s) : IsPlain s.toList := by
  refine ⟨clean.noReturn, ?_⟩
  intro c member
  cases marked : isMarked c with
  | true => exact isAllowed_of_isMarked marked
  | false =>
      have written := clean.written c member
      rw [escape_of_not_isMarked marked] at written
      simpa using written

theorem IsClean.cleaned_eq {s : String} (clean : IsClean s) (ends : LineEnds) :
    cleaned ends s = some s := by
  rw [cleaned, ends.readBack_eq_self clean.isPlain, nonBlank?, clean.nonBlank, clean.trimmed]
  rfl

namespace Component

/-- The texts about a component as a whole. -/
def scalars (c : Component) : List (Option String) :=
  [c.id, c.version, c.bootstrapClass, c.lifecycleClass, c.classPath]

/-- What is loaded of a component that was written. -/
def reloaded (ends : LineEnds) (c : Component) : Component where
  id := c.id.bind (cleaned ends)
  version := c.version.bind (cleaned ends)
  bootstrapClass := c.bootstrapClass.bind (cleaned ends)
  lifecycleClass := c.lifecycleClass.bind (cleaned ends)
  classPath := c.classPath.bind (cleaned ends)

/-- Whether the texts about a component that are set are clean. -/
def HasCleanScalars (c : Component) : Prop := ∀ s, some s ∈ c.scalars → IsClean s

instance (c : Component) : Decidable c.HasCleanScalars :=
  decidable_of_iff (∀ text ∈ c.scalars, ∀ s ∈ text, IsClean s)
    ⟨fun clean s member => clean (some s) member s rfl,
      fun clean _ member s isSome => clean s (isSome ▸ member)⟩

theorem bind_cleaned_eq {text : Option String} (clean : ∀ s, text = some s → IsClean s)
    (ends : LineEnds) : text.bind (cleaned ends) = text := by
  cases text with
  | none => rfl
  | some s => rw [Option.bind_some, (clean s rfl).cleaned_eq ends]

/-- Clean texts are loaded without a change. -/
theorem HasCleanScalars.reloaded_eq {c : Component} (clean : c.HasCleanScalars)
    (ends : LineEnds) : c.reloaded ends = c.scalarsOnly := by
  have same : ∀ text ∈ c.scalars, text.bind (cleaned ends) = text := fun text member =>
    bind_cleaned_eq (fun s isSome => clean s (isSome ▸ member)) ends
  simp only [scalars, List.forall_mem_cons] at same
  simp [reloaded, scalarsOnly, same]

/-! ## Elements below the root -/

theorem leadingText?_textNodes (s : String) :
    (leadingText? (textNodes s)).bind nonBlank? = nonBlank? (Xml.readBack s) := by
  by_cases nothing : writtenPieces s.toList = []
  · have noText : nonBlank? (Xml.readBack s) = none := by
      rw [nonBlank?_eq_none_iff, trim_eq_empty_iff, isBlank, Xml.readBack, nothing,
        String.toList_ofList]
      rfl
    rw [textNodes, if_pos nothing, noText]
    rfl
  · rw [textNodes, if_neg nothing, leadingText?, Option.bind_some]

@[simp]
theorem withElement_text (c : Component) (s : String) : c.withElement (.text s) = c :=
  rfl

/-- The texts between the elements of a block are passed over. -/
theorem foldl_withElement_contents (c : Component) (space : Option String) (level : Nat)
    (children : List Markup) :
    (Markup.contents space level children).foldl withElement c =
      (children.map (Markup.content space (level + 1))).foldl withElement c := by
  induction children generalizing c with
  | nil => rfl
  | cons child rest ih =>
      rw [Markup.contents, List.foldl_cons, withElement_text, List.foldl_cons, ih, List.map_cons,
        List.foldl_cons]

/-- What the elements of a document say, when their texts are read back. -/
def taken (ends : LineEnds) (c : Component) (elements : List Markup) : Component :=
  ((elements.map (Markup.mapText ends.ofText)).map
    (Markup.content (some documentSpace) 1)).foldl withElement c

theorem taken_append (ends : LineEnds) (c : Component) (first second : List Markup) :
    c.taken ends (first ++ second) = (c.taken ends first).taken ends second := by
  simp [taken]

/-- An optional text is taken in if its element is. -/
theorem taken_textElement {ends : LineEnds} {name : String} {c : Component}
    {set : Option String → Component} (unset : set none = c)
    (takes : ∀ children, c.withElement (.element ⟨some documentSpace, name⟩ [] children) =
      set ((leadingText? children).bind nonBlank?))
    (content : Option String) :
    c.taken ends (textElement name content) = set (content.bind (cleaned ends)) := by
  cases content with
  | none => exact unset.symm
  | some s =>
      have here := takes (textNodes (ends.ofText s))
      rw [leadingText?_textNodes] at here
      simpa [taken, textElement, Markup.mapText, Markup.content, cleaned, LineEnds.readBack]
        using here

theorem taken_services (ends : LineEnds) (c : Component) (services : List Markup) :
    c.taken ends (blockOf "services" services) = c := by
  cases services with
  | nil => rfl
  | cons service rest =>
      simp [taken, blockOf, Markup.mapText, Markup.content, withElement]

/-- The elements of a document say what was written in them, cleaned. -/
theorem taken_elements (ends : LineEnds) (c : Component) :
    ({} : Component).taken ends c.elements = c.reloaded ends := by
  have idTaken := @taken_textElement ends "component-id" {} (fun v => { id := v })
    rfl (by simp [withElement]) c.id
  have versionTaken (known : Component) (unset : known.version = none) :=
    @taken_textElement ends "version" known (fun v => { known with version := v })
      (by simp [← unset]) (by simp [withElement]) c.version
  have bootstrapTaken (known : Component) (unset : known.bootstrapClass = none) :=
    @taken_textElement ends "bootstrap-class" known (fun v => { known with bootstrapClass := v })
      (by simp [← unset]) (by simp [withElement]) c.bootstrapClass
  have lifecycleTaken (known : Component) (unset : known.lifecycleClass = none) :=
    @taken_textElement ends "lifecycle-class" known (fun v => { known with lifecycleClass := v })
      (by simp [← unset]) (by simp [withElement]) c.lifecycleClass
  have pathTaken (known : Component) (unset : known.classPath = none) :=
    @taken_textElement ends "class-path" known (fun v => { known with classPath := v })
      (by simp [← unset]) (by simp [withElement]) c.classPath
  simp only [elements, taken_append, taken_services]
  rw [idTaken, versionTaken _ rfl, bootstrapTaken _ rfl, lifecycleTaken _ rfl, pathTaken _ rfl]
  rfl

/-! ## Documents -/

theorem parseXml_of_read {path text : String} {root : Content} {c : Component}
    (read : Xml.read? text = some root) (known : ofXml root = .ok c) :
    parseXml path text = .ok c := by
  unfold parseXml
  simp only [read, known]

/-- The elements of a document that was written say the cleaned texts about its component. -/
theorem ofXml_contents (ends : LineEnds) (c : Component) :
    ofXml (.element ⟨some documentSpace, "component"⟩ []
        (Markup.contents (some documentSpace) 0 (c.elements.map (Markup.mapText ends.ofText)))) =
      .ok (c.reloaded ends) := by
  rw [ofXml, if_pos rfl, foldl_withElement_contents, ← taken_elements]
  rfl

/-- A written document tells the cleaned texts about its component. -/
theorem parseXml_render (ends : LineEnds) (path : String) (c : Component) :
    parseXml path (ends.ofDocument (c.render .xml)) = .ok (c.reloaded ends) :=
  parseXml_of_read (c.read?_markup_print ends) (ofXml_contents ends c)

/-- A written document can be loaded. -/
theorem load_render {store : Store} {path : String} (isXml : DataFormat.ofPath? path = none)
    {ends : LineEnds} {c : Component}
    (stored : store.read path = .ok (ends.ofDocument (c.render .xml))) :
    load store path = .ok (c.reloaded ends) := by
  simp only [load, stored, parse, isXml, parseXml_render]
  rfl

/-- Writes a component to a file as XML and loads it from there. -/
def reload (ends : LineEnds) (c : Component) : Except LoadFailure Component :=
  load { files := [(["component.xml"], ends.ofDocument (c.render .xml))] } "component.xml"

theorem reload_eq (ends : LineEnds) (c : Component) : c.reload ends = .ok (c.reloaded ends) :=
  load_render rfl rfl

/-! ## What loading does to the texts -/

theorem scalars_reloaded (ends : LineEnds) (c : Component) :
    (c.reloaded ends).scalars = c.scalars.map (·.bind (cleaned ends)) :=
  rfl

/-- A document that is read as the definition of the format asks tells the cleaned texts about its
component and nothing else, whatever texts its services hold.  A text that is clean comes back as
it is, and does so without normalized line ends as well. -/
theorem parseXml_render_cleans (path : String) (c : Component) :
    parseXml path (LineEnds.normalized.ofDocument (c.render .xml)) =
        .ok {
          id := c.id.bind cleanText
          version := c.version.bind cleanText
          bootstrapClass := c.bootstrapClass.bind cleanText
          lifecycleClass := c.lifecycleClass.bind cleanText
          classPath := c.classPath.bind cleanText
          services := [] } ∧
      ∀ ends : LineEnds, ∃ loaded,
        parseXml path (ends.ofDocument (c.render .xml)) = .ok loaded ∧ loaded.services = [] ∧
          ∀ (i : Nat) (s : String), c.scalars[i]? = some (some s) → IsClean s →
            loaded.scalars[i]? = some (some s) := by
  constructor
  · rw [parseXml_render, reloaded, cleaned_normalized]
  · intro ends
    refine ⟨c.reloaded ends, parseXml_render ends path c, rfl, ?_⟩
    intro i s here clean
    rw [scalars_reloaded, List.getElem?_map, here, Option.map_some, Option.bind_some,
      clean.cleaned_eq]

/-- A component with a text to clean and a service that speaks of another name. -/
def quotingShop : Component where
  id := some " sh\u0001op\r\n"
  version := some "1.0"
  services :=
    [{ name := "Orders"
       implementationClass := "shop.Orders"
       hint := some "<component-id>other</component-id>" }]

theorem parseXml_render_cleans_quotingShop :
    parseXml "component.xml" (LineEnds.normalized.ofDocument (quotingShop.render .xml)) =
        .ok { id := some "shop", version := some "1.0" } ∧
      IsClean "1.0" ∧
      ∃ loaded, parseXml "component.xml" (quotingShop.render .xml) = .ok loaded ∧
        loaded.scalars[1]? = some (some "1.0") := by
  obtain ⟨loads, each⟩ := parseXml_render_cleans "component.xml" quotingShop
  have clean : IsClean "1.0" := by decide
  obtain ⟨loaded, asWritten, _, same⟩ := each .asWritten
  have id : cleanText " sh\u0001op\r\n" = some "shop" := by decide
  have version : cleanText "1.0" = some "1.0" := by decide
  refine ⟨?_, clean, loaded, asWritten, same 1 "1.0" rfl clean⟩
  simpa [quotingShop, id, version] using loads

end Component

end ComponentGen.Document

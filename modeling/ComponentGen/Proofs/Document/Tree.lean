import ComponentGen.Document.Format
import ComponentGen.Proofs.Document.Markup
import ComponentGen.Proofs.Number.Numeral
import ComponentGen.Proofs.Xml.Grammar

/-!
# The element tree of a document

What a reader of XML 1.0 finds in the document of a component: an element for the component, a
child for each text about it that is set and, if it has services, one with the services, each with
its configuration parameters and operations.  The texts in the component appear as texts of
elements and values of attributes only.

A written document is well formed, and this tree is what it holds.
-/

namespace ComponentGen.Document

open Number Xml

/-! ## Parts of the tree -/

/-- An element in the namespace of documents. -/
def documentElement (name : String) (attributes : List Attribute) (children : List Content) :
    Content :=
  .element ⟨some "http://adobe.com/idp/dsc/component/document", name⟩ attributes children

/-- The attributes that have a value. -/
def attributesOf (values : List (String × Option String)) : List Attribute :=
  values.filterMap fun v => v.2.map fun value => ⟨⟨none, v.1⟩, reportedValue value⟩

/-- What is found in the element of a text. -/
def textInside (s : String) : List Content :=
  if reportedText s = "" then [] else [.text (reportedText s)]

/-- The elements of texts that are set. -/
def textElements (texts : List (String × Option String)) : List Content :=
  texts.filterMap fun t => t.2.map fun s => documentElement t.1 [] (textInside s)

/-- Elements inside another one at a level: each is on lines of its own, and so is the end tag
behind them. -/
def onLines (level : Nat) (elements : List Content) : List Content :=
  elements.flatMap (fun element => [.text (String.ofList (gap (level + 1))), element]) ++
    [.text (String.ofList (gap level))]

/-- An element around others, if there are any. -/
def groupElement (name : String) (level : Nat) (elements : List Content) : List Content :=
  if elements.isEmpty then [] else [documentElement name [] (onLines level elements)]

/-! ## Trees -/

/-- The element of a parameter. -/
def Parameter.tree (element : String) (level : Nat) (p : Parameter) : Content :=
  documentElement element
    (attributesOf [("name", p.name), ("title", p.title), ("type", p.type)])
    (onLines level (textElements [("hint", p.hint), ("description", p.description)]))

/-- The element of a fault. -/
def Fault.tree (level : Nat) (f : Fault) : Content :=
  documentElement "fault"
    (attributesOf [("name", f.name), ("type", f.type), ("title", f.title)])
    (onLines level (textElements [("hint", f.hint), ("description", f.description)]))

/-- The element of an operation. -/
def Operation.tree (level : Nat) (o : Operation) : Content :=
  documentElement "operation"
    (attributesOf [("name", o.name), ("method", o.method), ("title", o.title)])
    (onLines level
      (textElements [("small-icon", o.smallIcon), ("large-icon", o.largeIcon), ("hint", o.hint),
          ("description", o.description)] ++
        o.inputs.map (Parameter.tree "input-parameter" (level + 1)) ++
        o.outputs.map (Parameter.tree "output-parameter" (level + 1)) ++
        groupElement "faults" (level + 1) (o.faults.map (Fault.tree (level + 2)))))

/-- The element of a configuration parameter. -/
def ConfigParam.tree (level : Nat) (c : ConfigParam) : Content :=
  documentElement "config-parameter"
    (attributesOf [("name", c.name), ("type", c.type), ("title", c.title),
      ("required", c.required.map fun required => if required then "true" else "false"),
      ("property", c.property)])
    (onLines level
      (textElements [("default-value", c.defaultValue), ("hint", c.hint),
        ("description", c.description)]))

/-- The element of a deployment, which holds nothing. -/
def AutoDeploy.tree (a : AutoDeploy) : Content :=
  documentElement "auto-deploy"
    (attributesOf [("service-id", a.serviceId), ("category-id", a.categoryId),
      ("major-version", a.majorVersion.map toString),
      ("minor-version", a.minorVersion.map toString)])
    []

/-- The element of a service. -/
def Service.tree (level : Nat) (s : Service) : Content :=
  documentElement "service" (attributesOf [("name", s.name)])
    (onLines level
      (textElements [("implementation-class", s.implementationClass),
          ("factory-method", s.factoryMethod)] ++
        (s.autoDeploy.map AutoDeploy.tree).toList ++
        textElements [("small-icon", s.smallIcon), ("large-icon", s.largeIcon), ("hint", s.hint),
          ("description", s.description),
          ("request-processing-strategy", s.requestProcessingStrategy)] ++
        s.configParams.map (ConfigParam.tree (level + 1)) ++
        groupElement "operations" (level + 1) (s.operations.map (Operation.tree (level + 2)))))

/-- The root element of the document of a component. -/
def Component.tree (c : Component) : Content :=
  documentElement "component" []
    (onLines 0
      (textElements [("component-id", c.id), ("version", c.version),
          ("bootstrap-class", c.bootstrapClass), ("lifecycle-class", c.lifecycleClass),
          ("class-path", c.classPath)] ++
        groupElement "services" 1 (c.services.map (Service.tree 2))))

/-! ## The tree of markup -/

/-- What is reported of markup at a level of a document. -/
def reported (level : Nat) (m : Markup) : Content :=
  (m.mapText reportedText).content (some documentSpace) level

theorem contents_eq_onLines (space : Option String) (level : Nat) (children : List Markup) :
    Markup.contents space level children =
      onLines level (children.map (Markup.content space (level + 1))) := by
  induction children with
  | nil => rfl
  | cons child rest ih => rw [Markup.contents, ih]; rfl

theorem readBackAttributes_reportedText (attributes : List (String × String)) :
    readBackAttributes (attributes.map fun a => (a.1, reportedText a.2)) =
      attributesOf (attributes.map fun a => (a.1, some a.2)) := by
  induction attributes with
  | nil => rfl
  | cons a rest ih =>
      simp only [readBackAttributes, List.map_cons, List.map_map, readBackValue_reportedText,
        attributesOf, List.filterMap_cons, Option.map_some] at ih ⊢
      rw [ih]

theorem reported_empty (level : Nat) (name : String) (attributes : List (String × String)) :
    reported level (.empty name attributes) =
      documentElement name (attributesOf (attributes.map fun a => (a.1, some a.2))) [] := by
  rw [reported, Markup.mapText, Markup.content, readBackAttributes_reportedText]
  rfl

theorem reported_text (level : Nat) (name s : String) :
    reported level (.text name s) = documentElement name [] (textInside s) := by
  rw [reported, Markup.mapText, Markup.content, textNodes_reportedText]
  rfl

theorem reported_block (level : Nat) (name : String) (attributes : List (String × String))
    (children : List Markup) :
    reported level (.block name attributes children) =
      documentElement name (attributesOf (attributes.map fun a => (a.1, some a.2)))
        (onLines level (children.map (reported (level + 1)))) := by
  rw [reported, Markup.mapText, Markup.content, readBackAttributes_reportedText,
    Markup.mapTextAll_eq_map, contents_eq_onLines, List.map_map]
  rfl

theorem map_reported_textElement (level : Nat) (name : String) (s : Option String) :
    (textElement name s).map (reported level) = textElements [(name, s)] := by
  cases s with
  | none => rfl
  | some s => simp [textElement, textElements, reported_text]

theorem map_reported_blockOf (level : Nat) (name : String) (children : List Markup) :
    (blockOf name children).map (reported level) =
      groupElement name level (children.map (reported (level + 1))) := by
  cases children with
  | nil => rfl
  | cons child rest =>
      simp only [blockOf, List.isEmpty_cons, Bool.false_eq_true, if_false, List.map_cons,
        List.map_nil, reported_block, groupElement]
      rfl

theorem textElements_cons_cons (first second : String × Option String)
    (rest : List (String × Option String)) :
    textElements (first :: second :: rest) =
      textElements [first] ++ textElements (second :: rest) := by
  rcases first with ⟨name, _ | s⟩ <;> rfl

theorem attributesOf_append (front back : List (String × Option String)) :
    attributesOf (front ++ back) = attributesOf front ++ attributesOf back :=
  List.filterMap_append

theorem attributesOf_optionalAttribute (name : String) (value : Option String) :
    attributesOf ((optionalAttribute name value).map fun a => (a.1, some a.2)) =
      attributesOf [(name, value)] := by
  cases value <;> rfl

/-! ## The tree of each part -/

theorem Parameter.reported_markup (element : String) (level : Nat) (p : Parameter) :
    reported level (p.markup element) = p.tree element level := by
  rw [markup, reported_block, tree, textElements_cons_cons]
  simp only [List.map_append, map_reported_textElement]
  rfl

theorem Fault.reported_markup (level : Nat) (f : Fault) :
    reported level f.markup = f.tree level := by
  rw [markup, reported_block, tree, textElements_cons_cons]
  simp only [List.map_append, map_reported_textElement]
  rfl

theorem Operation.reported_markup (level : Nat) (o : Operation) :
    reported level o.markup = o.tree level := by
  have attributes : attributesOf (([("name", o.name)] ++ optionalAttribute "method" o.method ++
      [("title", o.title)]).map fun a => (a.1, some a.2)) =
        attributesOf [("name", o.name), ("method", o.method), ("title", o.title)] := by
    simp only [List.map_append, attributesOf_append, attributesOf_optionalAttribute]
    rw [← attributesOf_append, ← attributesOf_append]
    rfl
  have inputs := fun p : Parameter => p.reported_markup "input-parameter" (level + 1)
  have outputs := fun p : Parameter => p.reported_markup "output-parameter" (level + 1)
  have faults := Fault.reported_markup (level + 2)
  rw [markup, reported_block, attributes, tree]
  simp only [textElements_cons_cons, List.map_append, List.map_map, map_reported_textElement,
    map_reported_blockOf, Function.comp_def, inputs, outputs, faults, List.append_assoc]

theorem ConfigParam.reported_markup (level : Nat) (c : ConfigParam) :
    reported level c.markup = c.tree level := by
  have attributes : attributesOf (([("name", c.name), ("type", c.type), ("title", c.title)] ++
      optionalAttribute "required" (c.required.map boolText) ++
      optionalAttribute "property" c.property).map fun a => (a.1, some a.2)) =
        attributesOf [("name", c.name), ("type", c.type), ("title", c.title),
          ("required", c.required.map fun required => if required then "true" else "false"),
          ("property", c.property)] := by
    simp only [List.map_append, attributesOf_append, attributesOf_optionalAttribute]
    rw [← attributesOf_append, ← attributesOf_append]
    rfl
  rw [markup, reported_block, attributes, tree]
  simp only [textElements_cons_cons, List.map_append, map_reported_textElement,
    List.append_assoc]

theorem AutoDeploy.reported_markup (level : Nat) (a : AutoDeploy) :
    reported level a.markup = a.tree := by
  have attributes : attributesOf (([("service-id", a.serviceId), ("category-id", a.categoryId)] ++
      optionalAttribute "major-version" (a.majorVersion.map intText) ++
      optionalAttribute "minor-version" (a.minorVersion.map intText)).map
        fun a => (a.1, some a.2)) =
        attributesOf [("service-id", a.serviceId), ("category-id", a.categoryId),
          ("major-version", a.majorVersion.map toString),
          ("minor-version", a.minorVersion.map toString)] := by
    have decimal : intText = toString := funext intText_eq_toString
    simp only [decimal, List.map_append, attributesOf_append, attributesOf_optionalAttribute]
    rw [← attributesOf_append, ← attributesOf_append]
    rfl
  rw [markup, reported_empty, attributes, tree]

theorem Service.reported_markup (level : Nat) (s : Service) :
    reported level s.markup = s.tree level := by
  have deployment : ((s.autoDeploy.map AutoDeploy.markup).toList).map (reported (level + 1)) =
      (s.autoDeploy.map AutoDeploy.tree).toList := by
    cases s.autoDeploy with
    | none => rfl
    | some a => simp [AutoDeploy.reported_markup]
  have implementation : [Markup.text "implementation-class" s.implementationClass] =
      textElement "implementation-class" (some s.implementationClass) := rfl
  have params := ConfigParam.reported_markup (level + 1)
  have operations := Operation.reported_markup (level + 2)
  rw [markup, reported_block, tree, implementation]
  simp only [textElements_cons_cons, List.map_append, List.map_map, map_reported_textElement,
    map_reported_blockOf, Function.comp_def, deployment, params, operations, List.append_assoc]
  rfl

/-- The elements below the root are those of the tree. -/
theorem Component.reported_elements (c : Component) :
    c.elements.map (reported 1) =
      textElements [("component-id", c.id), ("version", c.version),
          ("bootstrap-class", c.bootstrapClass), ("lifecycle-class", c.lifecycleClass),
          ("class-path", c.classPath)] ++
        groupElement "services" 1 (c.services.map (Service.tree 2)) := by
  have services := Service.reported_markup 2
  simp only [elements, textElements_cons_cons, List.map_append, List.map_map,
    map_reported_textElement, map_reported_blockOf, Function.comp_def, services,
    List.append_assoc]

theorem Component.content_elements (c : Component) :
    Content.element ⟨some documentSpace, "component"⟩ []
        (Markup.contents (some documentSpace) 0 (c.elements.map (Markup.mapText reportedText))) =
      c.tree := by
  rw [tree, ← reported_elements, contents_eq_onLines, List.map_map]
  rfl

/-! ## Documents -/

/-- The reader finds the tree of a component in its document. -/
theorem Component.read?_render (c : Component) :
    Xml.read? (LineEnds.normalized.ofDocument (c.render .xml)) = some c.tree := by
  rw [← content_elements]
  exact c.read?_markup_print .normalized

/-- The document of a component, whatever texts are in it, is well formed, and its element tree
is the tree of the component, which is also what the reader finds in it. -/
theorem Component.render_mirrors_tree (c : Component) :
    IsDocument (LineEnds.normalized.ofDocument (c.render .xml)) c.tree ∧
      Xml.read? (LineEnds.normalized.ofDocument (c.render .xml)) = some c.tree := by
  refine ⟨?_, c.read?_render⟩
  rw [← content_elements]
  exact Markup.isDocument_print (by decide) isPlain_documentSpace (by decide)
    ⟨by decide, by decide, by decide⟩ c.simple_elements

end ComponentGen.Document

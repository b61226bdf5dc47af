import ComponentGen.Proofs.Document.Reload
import ComponentGen.Proofs.Document.Tree
import ComponentGen.Proofs.Number.Numeral

/-!
# Documents that are read back as a whole

The loader of earlier documents passes over services.  Here the element tree of a document is read
with everything that is in it: what is an attribute as its value, what is an element of its own as
its text, and what is known about the component as a whole as the loader takes it.

Of a component that was written, this gives the component with each text as it is reported.
-/

namespace ComponentGen.Document

open Number Xml

/-! ## Looking into elements -/

/-- The name of an element. -/
def elementName? : Content → Option ExpandedName
  | .element name _ _ => some name
  | _ => none

/-- Whether something is an element with a given name in the namespace of documents. -/
def hasName (name : String) (e : Content) : Bool :=
  elementName? e == some ⟨some documentSpace, name⟩

/-- The elements with a given name among others. -/
def named (name : String) (contents : List Content) : List Content := contents.filter (hasName name)

/-- The elements with a given name inside another one. -/
def childrenNamed (name : String) : Content → List Content
  | .element _ _ children => named name children
  | _ => []

/-- The value of an attribute. -/
def attribute? (name : String) : Content → Option String
  | .element _ attributes _ => (attributes.find? (·.name == ⟨none, name⟩)).map (·.value)
  | _ => none

/-- The value of an attribute that has to be there. -/
def attributeText (name : String) (e : Content) : String := (attribute? name e).getD ""

/-- The text of an element. -/
def innerText : Content → String
  | .element _ _ children => (leadingText? children).getD ""
  | _ => ""

/-- The text of the first element with a given name inside another one. -/
def textOf? (name : String) (e : Content) : Option String :=
  (childrenNamed name e).head?.map innerText

/-- The elements inside a group. -/
def grouped (group name : String) (e : Content) : List Content :=
  (childrenNamed group e).flatMap (childrenNamed name)

/-- The truth value of a word. -/
def boolOfText? (s : String) : Option Bool :=
  if s = "true" then some true else if s = "false" then some false else none

/-- The number of a decimal text, of any size. -/
def intOfText? (s : String) : Option Int := intOfDigits? 10 s.toList

/-! ## Reading the parts of a document -/

/-- Reads a parameter. -/
def Parameter.ofTree (e : Content) : Parameter where
  name := attributeText "name" e
  type := attributeText "type" e
  title := attributeText "title" e
  hint := textOf? "hint" e
  description := textOf? "description" e

/-- Reads a fault. -/
def Fault.ofTree (e : Content) : Fault where
  name := attributeText "name" e
  type := attributeText "type" e
  title := attributeText "title" e
  hint := textOf? "hint" e
  description := textOf? "description" e

/-- Reads an operation. -/
def Operation.ofTree (e : Content) : Operation where
  name := attributeText "name" e
  method := attribute? "method" e
  title := attributeText "title" e
  hint := textOf? "hint" e
  description := textOf? "description" e
  smallIcon := textOf? "small-icon" e
  largeIcon := textOf? "large-icon" e
  inputs := (childrenNamed "input-parameter" e).map Parameter.ofTree
  outputs := (childrenNamed "output-parameter" e).map Parameter.ofTree
  faults := (grouped "faults" "fault" e).map Fault.ofTree

/-- Reads a configuration parameter. -/
def ConfigParam.ofTree (e : Content) : ConfigParam where
  name := attributeText "name" e
  property := attribute? "property" e
  type := attributeText "type" e
  title := attributeText "title" e
  hint := textOf? "hint" e
  description := textOf? "description" e
  required := (attribute? "required" e).bind boolOfText?
  defaultValue := textOf? "default-value" e

/-- Reads a deployment. -/
def AutoDeploy.ofTree (e : Content) : AutoDeploy where
  serviceId := attributeText "service-id" e
  categoryId := attributeText "category-id" e
  majorVersion := (attribute? "major-version" e).bind intOfText?
  minorVersion := (attribute? "minor-version" e).bind intOfText?

/-- Reads a service. -/
def Service.ofTree (e : Content) : Service where
  name := attributeText "name" e
  implementationClass := (textOf? "implementation-class" e).getD ""
  smallIcon := textOf? "small-icon" e
  largeIcon := textOf? "large-icon" e
  hint := textOf? "hint" e
  description := textOf? "description" e
  factoryMethod := textOf? "factory-method" e
  requestProcessingStrategy := textOf? "request-processing-strategy" e
  autoDeploy := (childrenNamed "auto-deploy" e).head?.map AutoDeploy.ofTree
  operations := (grouped "operations" "operation" e).map Operation.ofTree
  configParams := (childrenNamed "config-parameter" e).map ConfigParam.ofTree

namespace Component

/-- Reads a component with its services. -/
def ofTree? (root : Content) : Option Component :=
  match ofXml root with
  | .ok known =>
      some { known with services := (grouped "services" "service" root).map Service.ofTree }
  | .error _ => none

/-- Reads the text of a document with all that is in it. -/
def readDocument? (text : String) : Option Component := (Xml.read? text).bind ofTree?

end Component

/-! ## What is reported of the parts -/

/-- A parameter with its texts as they are reported. -/
def Parameter.asReported (p : Parameter) : Parameter where
  name := reportedValue p.name
  type := reportedValue p.type
  title := reportedValue p.title
  hint := p.hint.map reportedText
  description := p.description.map reportedText

/-- A fault with its texts as they are reported. -/
def Fault.asReported (f : Fault) : Fault where
  name := reportedValue f.name
  type := reportedValue f.type
  title := reportedValue f.title
  hint := f.hint.map reportedText
  description := f.description.map reportedText

/-- An operation with its texts as they are reported. -/
def Operation.asReported (o : Operation) : Operation where
  name := reportedValue o.name
  method := o.method.map reportedValue
  title := reportedValue o.title
  hint := o.hint.map reportedText
  description := o.description.map reportedText
  smallIcon := o.smallIcon.map reportedText
  largeIcon := o.largeIcon.map reportedText
  inputs := o.inputs.map Parameter.asReported
  outputs := o.outputs.map Parameter.asReported
  faults := o.faults.map Fault.asReported

/-- A configuration parameter with its texts as they are reported. -/
def ConfigParam.asReported (c : ConfigParam) : ConfigParam where
  name := reportedValue c.name
  property := c.property.map reportedValue
  type := reportedValue c.type
  title := reportedValue c.title
  hint := c.hint.map reportedText
  description := c.description.map reportedText
  required := c.required
  defaultValue := c.defaultValue.map reportedText

/-- A deployment with its texts as they are reported. -/
def AutoDeploy.asReported (a : AutoDeploy) : AutoDeploy where
  serviceId := reportedValue a.serviceId
  categoryId := reportedValue a.categoryId
  majorVersion := a.majorVersion
  minorVersion := a.minorVersion

/-- A service with its texts as they are reported. -/
def Service.asReported (s : Service) : Service where
  name := reportedValue s.name
  implementationClass := reportedText s.implementationClass
  smallIcon := s.smallIcon.map reportedText
  largeIcon := s.largeIcon.map reportedText
  hint := s.hint.map reportedText
  description := s.description.map reportedText
  factoryMethod := s.factoryMethod.map reportedText
  requestProcessingStrategy := s.requestProcessingStrategy.map reportedText
  autoDeploy := s.autoDeploy.map AutoDeploy.asReported
  operations := s.operations.map Operation.asReported
  configParams := s.configParams.map ConfigParam.asReported

/-- A component with its texts as they are reported; those about the component as a whole are
cleaned. -/
def Component.asReported (c : Component) : Component where
  id := c.id.bind cleanText
  version := c.version.bind cleanText
  bootstrapClass := c.bootstrapClass.bind cleanText
  lifecycleClass := c.lifecycleClass.bind cleanText
  classPath := c.classPath.bind cleanText
  services := c.services.map Service.asReported

/-! ## Attributes -/

@[simp]
theorem attribute?_nil (name element : String) (children : List Content) :
    attribute? name (documentElement element (attributesOf []) children) = none :=
  rfl

/-- Attributes are found by their names, one after the other. -/
@[simp]
theorem attribute?_cons (name element key : String) (value : Option String)
    (rest : List (String × Option String)) (children : List Content) :
    attribute? name (documentElement element (attributesOf ((key, value) :: rest)) children) =
      (if key = name then value.map reportedValue else none).or
        (attribute? name (documentElement element (attributesOf rest) children)) := by
  cases value with
  | none =>
      rw [Option.map_none, ite_self, Option.none_or]
      rfl
  | some s =>
      by_cases same : key = name
      · simp [attribute?, documentElement, attributesOf, same]
      · simp [attribute?, documentElement, attributesOf, same]

/-! ## Elements -/

@[simp]
theorem named_nil (name : String) : named name [] = [] :=
  rfl

@[simp]
theorem named_append (name : String) (front back : List Content) :
    named name (front ++ back) = named name front ++ named name back :=
  List.filter_append ..

/-- Elements of one name are all taken or all left. -/
theorem named_map {α : Type} {f : α → Content} {element : String}
    (each : ∀ item, elementName? (f item) = some ⟨some documentSpace, element⟩) (name : String)
    (items : List α) :
    named name (items.map f) = if element = name then items.map f else [] := by
  have test : ∀ e ∈ items.map f, hasName name e = decide (element = name) := by
    intro e member
    obtain ⟨item, _, rfl⟩ := List.mem_map.mp member
    rw [hasName, each item]
    by_cases same : element = name <;> simp [same]
  by_cases same : element = name
  · rw [if_pos same, named, List.filter_eq_self]
    intro e member
    rw [test e member, decide_eq_true same]
  · rw [if_neg same, named, List.filter_eq_nil_iff]
    intro e member
    rw [test e member, decide_eq_false same]
    exact Bool.false_ne_true

/-- The texts between elements are no elements. -/
theorem named_onLines (name : String) (level : Nat) (elements : List Content) :
    named name (onLines level elements) = named name elements := by
  have text (s : String) : hasName name (.text s) = false := rfl
  induction elements with
  | nil => rfl
  | cons e rest ih =>
      simp only [onLines, named, List.flatMap_cons, List.filter_append, List.filter_cons, text,
        Bool.false_eq_true, if_false, List.filter_nil, List.append_assoc] at ih ⊢
      rw [ih]
      split <;> rfl

@[simp]
theorem childrenNamed_documentElement (name element : String) (attributes : List Attribute)
    (level : Nat) (elements : List Content) :
    childrenNamed name (documentElement element attributes (onLines level elements)) =
      named name elements :=
  named_onLines name level elements

@[simp]
theorem named_textElements_nil (name : String) : named name (textElements []) = [] :=
  rfl

@[simp]
theorem named_textElements_cons (name key : String) (value : Option String)
    (rest : List (String × Option String)) :
    named name (textElements ((key, value) :: rest)) =
      (if key = name then textElements [(key, value)] else []) ++
        named name (textElements rest) := by
  cases value with
  | none => split <;> rfl
  | some s =>
      have split : textElements ((key, some s) :: rest) =
          textElements [(key, some s)] ++ textElements rest := rfl
      rw [split, named_append]
      congr 1
      exact named_map (f := fun _ : Unit => documentElement key [] (textInside s)) (fun _ => rfl)
        name [()]

@[simp]
theorem named_groupElement (name group : String) (level : Nat) (elements : List Content) :
    named name (groupElement group level elements) =
      if group = name then groupElement group level elements else [] := by
  cases elements with
  | nil => rw [groupElement, List.isEmpty_nil, if_pos rfl, ite_self, named_nil]
  | cons e rest =>
      exact named_map (f := fun _ : Unit =>
        documentElement group [] (onLines level (e :: rest))) (fun _ => rfl) name [()]

@[simp]
theorem flatMap_groupElement (name group : String) (level : Nat) (elements : List Content) :
    (groupElement group level elements).flatMap (childrenNamed name) = named name elements := by
  cases elements with
  | nil => rfl
  | cons e rest =>
      rw [groupElement, List.isEmpty_cons, if_neg Bool.false_ne_true, List.flatMap_singleton,
        childrenNamed_documentElement]

/-- The text of an element is the reported one. -/
theorem innerText_textInside (name s : String) :
    innerText (documentElement name [] (textInside s)) = reportedText s := by
  rw [documentElement, innerText, textInside]
  split
  case isTrue empty => rw [empty]; rfl
  case isFalse => rfl

@[simp]
theorem head?_textElements (name : String) (value : Option String) :
    (textElements [(name, value)]).head?.map innerText = value.map reportedText := by
  cases value with
  | none => rfl
  | some s => exact congrArg some (innerText_textInside name s)

/-! ## Words and numbers -/

@[simp]
theorem boolOfText?_word (value : Option Bool) :
    (value.map (reportedValue ∘ fun b => if b then "true" else "false")).bind boolOfText? =
      value := by
  rcases value with _ | _ | _
  · rfl
  · decide
  · decide

/-- What can be seen of ASCII is written as it is and is no blank. -/
theorem isAllowed_of_visible {c : Char} (above : 0x20 < c.toNat) (below : c.toNat < 0x80) :
    isAllowed c = true ∧ isSpace c = false := by
  constructor
  · rw [isAllowed, if_neg (by omega), Bool.and_eq_true, bne_iff_ne, bne_iff_ne]
    constructor
    · rintro rfl
      exact absurd below (by decide)
    · rintro rfl
      exact absurd below (by decide)
  · rw [← Bool.not_eq_true]
    intro blank
    simp only [isSpace, Bool.or_eq_true, beq_iff_eq] at blank
    rcases blank with ((rfl | rfl) | rfl) | rfl <;> exact absurd above (by decide)

theorem visible_of_mem_intText {n : Int} {c : Char} (member : c ∈ (intText n).toList) :
    0x20 < c.toNat ∧ c.toNat < 0x80 := by
  have digit {k : Nat} (member : c ∈ natDigits k) : 0x20 < c.toNat ∧ c.toNat < 0x80 := by
    have range := range_of_isDigit (isDigit_of_mem_natDigits member)
    omega
  cases n with
  | ofNat k =>
      rw [intText, String.toList_ofList] at member
      exact digit member
  | negSucc k =>
      rw [intText, String.toList_ofList] at member
      rcases List.mem_cons.mp member with rfl | member
      · decide
      · exact digit member

theorem reportedValue_intText (n : Int) : reportedValue (intText n) = intText n := by
  have plain {c : Char} (member : c ∈ (intText n).toList) :
      isAllowed c = true ∧ isSpace c = false := by
    obtain ⟨above, below⟩ := visible_of_mem_intText member
    exact isAllowed_of_visible above below
  apply reportedValue_eq_self
  · constructor
    · intro member
      exact absurd (plain member).2 (by decide)
    · intro c member
      exact (plain member).1
  · intro c member blank
    rw [(plain member).2] at blank
    cases blank

@[simp]
theorem intOfText?_toString (value : Option Int) :
    (value.map (reportedValue ∘ toString)).bind intOfText? = value := by
  cases value with
  | none => rfl
  | some n =>
      rw [Option.map_some, Option.bind_some, Function.comp_apply, ← intText_eq_toString,
        reportedValue_intText, intOfText?, intOfDigits?_intText]

/-! ## Elements of one kind -/

@[simp]
theorem named_map_parameters (name element : String) (level : Nat) (items : List Parameter) :
    named name (items.map (Parameter.tree element level)) =
      if element = name then items.map (Parameter.tree element level) else [] :=
  named_map (fun _ => rfl) name items

@[simp]
theorem named_map_faults (name : String) (level : Nat) (items : List Fault) :
    named name (items.map (Fault.tree level)) =
      if "fault" = name then items.map (Fault.tree level) else [] :=
  named_map (fun _ => rfl) name items

@[simp]
theorem named_map_operations (name : String) (level : Nat) (items : List Operation) :
    named name (items.map (Operation.tree level)) =
      if "operation" = name then items.map (Operation.tree level) else [] :=
  named_map (fun _ => rfl) name items

@[simp]
theorem named_map_configParams (name : String) (level : Nat) (items : List ConfigParam) :
    named name (items.map (ConfigParam.tree level)) =
      if "config-parameter" = name then items.map (ConfigParam.tree level) else [] :=
  named_map (fun _ => rfl) name items

@[simp]
theorem named_deployment (name : String) (a : Option AutoDeploy) :
    named name (a.map AutoDeploy.tree).toList =
      if "auto-deploy" = name then (a.map AutoDeploy.tree).toList else [] := by
  have asList : (a.map AutoDeploy.tree).toList = a.toList.map AutoDeploy.tree := by
    cases a <;> rfl
  rw [asList]
  exact named_map (fun _ => rfl) name a.toList

@[simp]
theorem named_map_services (name : String) (level : Nat) (items : List Service) :
    named name (items.map (Service.tree level)) =
      if "service" = name then items.map (Service.tree level) else [] :=
  named_map (fun _ => rfl) name items

/-! ## Reading what was written -/

-- Each part is read from its tree attribute by attribute and element by element: the lemmas above
-- leave of all that is in the tree what has the name that is asked for.

theorem Parameter.ofTree_tree (element : String) (level : Nat) (p : Parameter) :
    ofTree (p.tree element level) = p.asReported := by
  simp [ofTree, tree, asReported, attributeText, textOf?]

theorem Fault.ofTree_tree (level : Nat) (f : Fault) : ofTree (f.tree level) = f.asReported := by
  simp [ofTree, tree, asReported, attributeText, textOf?]

theorem Operation.ofTree_tree (level : Nat) (o : Operation) :
    ofTree (o.tree level) = o.asReported := by
  simp [ofTree, tree, asReported, attributeText, textOf?, grouped, Function.comp_def,
    Parameter.ofTree_tree, Fault.ofTree_tree]

theorem ConfigParam.ofTree_tree (level : Nat) (c : ConfigParam) :
    ofTree (c.tree level) = c.asReported := by
  simp [ofTree, tree, asReported, attributeText, textOf?]

theorem AutoDeploy.ofTree_tree (a : AutoDeploy) : ofTree a.tree = a.asReported := by
  simp [ofTree, tree, asReported, attributeText]

theorem Service.ofTree_tree (level : Nat) (s : Service) :
    ofTree (s.tree level) = s.asReported := by
  simp [ofTree, tree, asReported, attributeText, textOf?, grouped, Function.comp_def,
    ConfigParam.ofTree_tree, Operation.ofTree_tree, AutoDeploy.ofTree_tree]

namespace Component

theorem ofXml_tree (c : Component) : ofXml c.tree = .ok (c.reloaded .normalized) := by
  rw [← content_elements]
  exact ofXml_contents .normalized c

theorem services_tree (c : Component) :
    (grouped "services" "service" c.tree).map Service.ofTree =
      c.services.map Service.asReported := by
  simp [grouped, tree, Function.comp_def, Service.ofTree_tree]

/-- Of a document that was written, the component is read back with its texts as they are
reported. -/
theorem readDocument?_render (c : Component) :
    readDocument? (LineEnds.normalized.ofDocument (c.render .xml)) = some c.asReported := by
  rw [readDocument?, read?_render, Option.bind_some, ofTree?, ofXml_tree, services_tree, reloaded,
    cleaned_normalized]
  rfl

end Component

end ComponentGen.Document

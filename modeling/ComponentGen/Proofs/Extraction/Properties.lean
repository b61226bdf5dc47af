import ComponentGen.Proofs.Extraction.Members
import ComponentGen.Proofs.Extraction.Validity

/-!
# From properties back to setters

The name of a property is what follows the verb in the name of a method, with a small letter at its
beginning unless it starts with two capitals.  Either way the capital can be put back, and so the
method can be told from the property.  A configuration parameter keeps the whole property, however
much of it is in its name.
-/

namespace ComponentGen.Extraction

open Document Naming Source Text

/-! ## Names of methods -/

/-- The capital that a subject gives up can be put back. -/
theorem capitalize_decapitalize {subject : String} (capital : StartsCapital subject) :
    capitalize (decapitalize subject) = subject := by
  obtain ⟨c, rest, split, upper⟩ := capital
  have ascii := isAscii_of_isUpper upper
  rcases decapitalize_eq_or split upper with same | same
  · rw [same, capitalize_of_isAscii split ascii, toUpper_of_isUpper upper, ← split,
      String.ofList_toList]
  · have small : (decapitalize subject).toList = c.toLower :: rest := by
      rw [same, String.toList_ofList]
    rw [capitalize_of_isAscii small (isAscii_toLower ascii), toUpper_toLower upper, ← split,
      String.ofList_toList]

theorem eq_append_capitalize {verb name subject : String}
    (found : afterVerb? verb name = some subject) :
    name = verb ++ capitalize (decapitalize subject) := by
  rcases afterVerb?_eq_some_iff.mp found with ⟨split, capital⟩
  rw [capitalize_decapitalize capital, split]

/-- A setter is named after its property. -/
theorem name_of_isMutator {m : Member} {property : String} (mutator : m.isMutator = true)
    (named : m.propertyName? = some property) : m.name = "set" ++ capitalize property := by
  rw [Member.propertyName?, isAccessor_of_isMutator mutator, mutator] at named
  rcases Option.map_eq_some_iff.mp named with ⟨subject, found, rfl⟩
  exact eq_append_capitalize found

/-- A getter is named after its property. -/
theorem name_of_isAccessor {m : Member} (accessor : m.isAccessor = true) :
    ∃ property, m.propertyName? = some property ∧
      (m.name = "get" ++ capitalize property ∨ m.name = "is" ++ capitalize property) := by
  have shape := accessor
  simp only [Member.isAccessor, Bool.and_eq_true] at shape
  rcases Option.isSome_iff_exists.mp shape.2 with ⟨subject, found⟩
  refine ⟨decapitalize subject, ?_, ?_⟩
  · rw [Member.propertyName?, accessor, found]
    rfl
  · rcases Option.or_eq_some_iff.mp found with get | ⟨_, is⟩
    · exact .inl (eq_append_capitalize get)
    · exact .inr (eq_append_capitalize is)

/-- Setters of one property have one name. -/
theorem name_eq_of_propertyName? {m other : Member} (mutator : m.isMutator = true)
    (alsoMutator : other.isMutator = true) (same : m.propertyName? = other.propertyName?) :
    m.name = other.name := by
  rcases property_of_isMutator mutator with ⟨_, property, _, named, _⟩
  rw [name_of_isMutator mutator named, name_of_isMutator alsoMutator (same ▸ named)]

/-! ## Configuration parameters -/

/-- What a configuration parameter tells of the setter that it was made from: the setter's
property, and with it the setter's name.  The property is in the name of the parameter as far as
it fits, and it is kept beside the name exactly if it does not fit. -/
structure NamesSetter (m : Member) (p : ConfigParam) : Prop where
  property : m.propertyName? = some p.propertyName
  setter : m.name = "set" ++ capitalize p.propertyName
  name : p.name = String.ofList (p.propertyName.toList.take 100)
  kept : p.property.isSome = true ↔ 100 < p.propertyName.length
  short : p.name.length ≤ 100

theorem name_forProperty (p : ConfigParam) (property : String) :
    (p.forProperty property).name = String.ofList (property.toList.take 100) := by
  rw [ConfigParam.forProperty]
  split
  case isTrue => rfl
  case isFalse fits =>
    rw [← String.length_toList, Nat.not_lt] at fits
    have whole : property.toList.take 100 = property.toList := List.take_of_length_le fits
    rw [whole, String.ofList_toList]

theorem isSome_property_forProperty (p : ConfigParam) (property : String) :
    (p.forProperty property).property.isSome = true ↔ 100 < property.length := by
  rw [ConfigParam.forProperty]
  split
  case isTrue long => exact iff_of_true rfl long
  case isFalse fits => exact iff_of_false Bool.false_ne_true fits

/-- Every setter has a configuration parameter, and the parameter tells the setter. -/
theorem namesSetter_fillConfigParam? (s : Strategy) {m : Member} (mutator : m.isMutator = true)
    (node : ConfigParam) : ∃ p, s.fillConfigParam? m node = some p ∧ NamesSetter m p := by
  rcases exists_fillConfigParam? s mutator node with
    ⟨_, property, p, _, named, filled, name, kept, _⟩
  have same : p.propertyName = property := by
    rw [ConfigParam.propertyName, name, kept]
    exact propertyName_forProperty node property
  refine ⟨p, filled, ?_⟩
  constructor
  case property => rw [same, named]
  case setter => rw [same, ← name_of_isMutator mutator named]
  case name => rw [same, name, name_forProperty]
  case kept => rw [same, kept, isSome_property_forProperty]
  case short =>
    rw [name]
    exact length_forProperty_le property node

/-! ## Documents -/

theorem namesSetter_configParams {s : Strategy} {component : Component} {c : Source.Class}
    {noted : Noted Service} (built : s.service component c = .ok noted) :
    List.Forall₂ NamesSetter (c.members.filter (·.isMutator)) noted.value.configParams := by
  rcases Strategy.service_eq_ok_iff.mp built with ⟨described, operations, _, _, rfl⟩
  apply Outcome.forall₂_filterMap
  intro m member
  exact namesSetter_fillConfigParam? s (List.of_mem_filter member) {}

/-- Every setter can be told from its configuration parameter, whatever was known of the parameter
before; and so can all setters of a document that is made.  None of the names in the document is
too long.  Setters with different names have different properties, and a getter can be told from
its property up to its verb. -/
theorem setters_recoverable :
    (∀ (s : Strategy) (m : Member) (node : ConfigParam), m.isMutator = true →
      ∃ p, s.fillConfigParam? m node = some p ∧ NamesSetter m p) ∧
    (∀ (s : Strategy) (prior : Option Component) (tree : Tree) (report : Report),
      s.generate prior tree = .ok report →
      List.Forall₂
        (fun c (service : Service) =>
          List.Forall₂ NamesSetter (c.members.filter (·.isMutator)) service.configParams)
        (s.serviceClasses tree) report.component.services ∧
      report.component.violation? .configParamNameLength = none) ∧
    (∀ m other : Member, m.isMutator = true → other.isMutator = true →
      m.propertyName? = other.propertyName? → m.name = other.name) ∧
    ∀ m : Member, m.isAccessor = true →
      ∃ property, m.propertyName? = some property ∧
        (m.name = "get" ++ capitalize property ∨ m.name = "is" ++ capitalize property) := by
  refine ⟨?_, ?_, ?_, ?_⟩
  · intro s m node mutator
    exact namesSetter_fillConfigParam? s mutator node
  · intro s prior tree report run
    constructor
    · refine (Strategy.services_of_generate run).imp ?_
      rintro c service ⟨noted, built, rfl⟩
      exact namesSetter_configParams built
    · rw [Component.violation?_eq_none_iff]
      exact keeps_configParamNameLength (exists_isAssembled (isAssembled_of_generate run))
  · intro m other mutator alsoMutator same
    exact name_eq_of_propertyName? mutator alsoMutator same
  · intro m accessor
    exact name_of_isAccessor accessor

/-! ## Setters of all kinds -/

/-- What follows the verb in a name that is too long for a configuration parameter. -/
def longSubject : String := String.ofList ('X' :: List.replicate longestConfigName 'x')

/-- A setter of that name. -/
def longSetter : Member where
  name := "set" ++ longSubject
  parameters := [{ name := "x", type := { name := "int" } }]

theorem isMutator_longSetter : longSetter.isMutator = true := by
  have found : setterSubject? longSetter.name = some longSubject :=
    afterVerb?_eq_some_iff.mpr ⟨rfl, 'X', _, String.toList_ofList, rfl⟩
  rw [Member.isMutator, found]
  rfl

/-- A getter with the shorter one of the two verbs. -/
def openGetter : Member where
  name := "isOpen"
  returnType := some { name := "boolean" }

/-- A class with that getter, and with setters of properties that start with a small letter, and
with two capitals, of which the second one may be beyond ASCII. -/
def endpointClass : Source.Class where
  qualifiedName := "shop.Endpoint"
  members :=
    [openGetter,
      { name := "setX", parameters := [{ name := "x", type := { name := "int" } }] },
      { name := "setURL", parameters := [{ name := "url", type := { name := "java.net.URL" } }] },
      { name := "setAÉtat", parameters := [{ name := "state", type := { name := "int" } }] }]

/-- The tree of that class. -/
def endpointTree : Tree where
  classes := [endpointClass]
  ordered := by simp

/-- The report on that tree. -/
def endpointReport : Report where
  component :=
    { services :=
        [{ name := "Endpoint"
           implementationClass := "shop.Endpoint"
           autoDeploy := some { serviceId := "Endpoint" }
           configParams :=
             [{ name := "x", type := "int", title := "X" },
               { name := "URL", type := "java.net.URL", title := "Url" },
               { name := "AÉtat", type := "int", title := "A état" }] }] }

theorem generate_endpointTree :
    ({ kind := .doclets } : Strategy).generate none endpointTree = .ok endpointReport := by
  decide +kernel

theorem setters_recoverable_endpointTree :
    longSetter.isMutator = true ∧ openGetter.isAccessor = true ∧
      (∃ p, Strategy.fillConfigParam? { kind := .annotations } longSetter { name := "old" } =
        some p ∧ NamesSetter longSetter p) ∧
      ({ kind := .doclets } : Strategy).generate none endpointTree = .ok endpointReport ∧
      List.Forall₂
        (fun c (service : Service) =>
          List.Forall₂ NamesSetter (c.members.filter (·.isMutator)) service.configParams)
        [endpointClass] endpointReport.component.services ∧
      ∃ property, openGetter.propertyName? = some property ∧
        (openGetter.name = "get" ++ capitalize property ∨
          openGetter.name = "is" ++ capitalize property) := by
  have accessor : openGetter.isAccessor = true := by decide +kernel
  rcases setters_recoverable with ⟨each, documents, _, getters⟩
  exact ⟨isMutator_longSetter, accessor, each _ _ _ isMutator_longSetter, generate_endpointTree,
    (documents _ _ _ _ generate_endpointTree).1, getters _ accessor⟩

end ComponentGen.Extraction

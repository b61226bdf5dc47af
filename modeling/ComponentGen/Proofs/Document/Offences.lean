import ComponentGen.Proofs.Document.Rules
import ComponentGen.Proofs.Number.Numeral
import ComponentGen.Proofs.Text.Pieces

/-!
# Which offence validation reports

Validation asks one rule after the other, and a rule looks at the parts of a document in a fixed
order.  Whether a part offends is said here for the part by itself, apart from that order.  What
validation reports is then what is said about the first part that offends the first rule that is
not kept, and a document is valid exactly if no part offends any rule.
-/

namespace ComponentGen.Document

open Number Text

/-! ## Parts in the order of the rules -/

/-- A part of a document, with what has to be known of its place to say that it offends. -/
inductive Part where
  | id (text : Option String)
  | version (text : Option String)
  | service (index : Nat) (s : Service)
  | operation (s : Service) (earlier : List Operation) (o : Operation)
  | parameter (o : Operation) (p : Parameter)
  | fault (o : Operation) (f : Fault)
  | configParam (s : Service) (p : ConfigParam)

/-- Items with those in front of them. -/
def withEarlier {α : Type} (earlier : List α) : List α → List (List α × α)
  | [] => []
  | item :: rest => (earlier, item) :: withEarlier (earlier ++ [item]) rest

@[simp]
theorem map_snd_withEarlier {α : Type} (earlier items : List α) :
    (withEarlier earlier items).map (·.2) = items := by
  induction items generalizing earlier with
  | nil => rfl
  | cons item rest ih => simp [withEarlier, ih]

/-- The operations of a service. -/
def Service.operationParts (s : Service) : List Part :=
  (withEarlier [] s.operations).map fun entry => .operation s entry.1 entry.2

/-- The configuration parameters of a service. -/
def Service.configParamParts (s : Service) : List Part := s.configParams.map (.configParam s)

/-- What stands in an operation: its inputs, its outputs and its faults. -/
def Operation.innerParts (o : Operation) : List Part :=
  (o.inputs ++ o.outputs).map (.parameter o) ++ o.faults.map (.fault o)

/-- The parts of a service that have a title. -/
def Service.titledParts (s : Service) : List Part :=
  ((withEarlier [] s.operations).flatMap fun entry =>
    .operation s entry.1 entry.2 :: entry.2.innerParts) ++ s.configParamParts

/-- The parts that a rule looks at, in the order in which it does. -/
def Component.parts (c : Component) : Rule → List Part
  | .requiredFields => [.id c.id, .version c.version]
  | .serviceImplementation => c.services.zipIdx.map fun entry => .service entry.2 entry.1
  | .uniqueOperationNames => c.services.flatMap Service.operationParts
  | .configParamNameLength => c.services.flatMap Service.configParamParts
  | .titlesPresent => c.services.flatMap Service.titledParts

/-! ## Offences -/

/-- How a part can offend a rule, and the violation that it is. -/
inductive Offence : Rule → Part → Violation → Prop where
  | noId {text : Option String} (blank : saysNothing text = true) :
      Offence .requiredFields (.id text) .noId
  | noVersion {text : Option String} (blank : saysNothing text = true) :
      Offence .requiredFields (.version text) .noVersion
  | noServiceName {index : Nat} {s : Service} (blank : isBlank s.name = true) :
      Offence .serviceImplementation (.service index s) (.noServiceName index)
  | noImplementation {index : Nat} {s : Service} (named : isBlank s.name = false)
      (blank : isBlank s.implementationClass = true) :
      Offence .serviceImplementation (.service index s) (.noImplementation s.name)
  | repeatedOperation {s : Service} {earlier : List Operation} {o : Operation}
      (repeated : o.name ∈ earlier.map (·.name)) :
      Offence .uniqueOperationNames (.operation s earlier o) (.repeatedOperation s.name o.name)
  | longConfigName {s : Service} {p : ConfigParam} (long : 100 < p.name.length) :
      Offence .configParamNameLength (.configParam s p) (.longConfigName s.name p.name.length)
  | untitledOperation {s : Service} {earlier : List Operation} {o : Operation}
      (blank : isBlank o.title = true) :
      Offence .titlesPresent (.operation s earlier o) (.untitledOperation o.name s.name)
  | untitledParameter {o : Operation} {p : Parameter} (blank : isBlank p.title = true) :
      Offence .titlesPresent (.parameter o p) (.untitledParameter p.name o.name)
  | untitledFault {o : Operation} {f : Fault} (blank : isBlank f.title = true) :
      Offence .titlesPresent (.fault o f) (.untitledFault f.name o.name)
  | untitledConfigParam {s : Service} {p : ConfigParam} (blank : isBlank p.title = true) :
      Offence .titlesPresent (.configParam s p) (.untitledConfigParam p.name s.name)

/-- The violation that a part is of a rule. -/
def Part.violation? : Rule → Part → Option Violation
  | .requiredFields, .id text => violationIf (saysNothing text) .noId
  | .requiredFields, .version text => violationIf (saysNothing text) .noVersion
  | .serviceImplementation, .service index s =>
      (violationIf (isBlank s.name) (.noServiceName index)).or
        (violationIf (isBlank s.implementationClass) (.noImplementation s.name))
  | .uniqueOperationNames, .operation s earlier o =>
      violationIf (o.name ∈ earlier.map (·.name)) (.repeatedOperation s.name o.name)
  | .configParamNameLength, .configParam s p =>
      violationIf (100 < p.name.length) (.longConfigName s.name p.name.length)
  | .titlesPresent, .operation s _ o =>
      violationIf (isBlank o.title) (.untitledOperation o.name s.name)
  | .titlesPresent, .parameter o p =>
      violationIf (isBlank p.title) (.untitledParameter p.name o.name)
  | .titlesPresent, .fault o f => violationIf (isBlank f.title) (.untitledFault f.name o.name)
  | .titlesPresent, .configParam s p =>
      violationIf (isBlank p.title) (.untitledConfigParam p.name s.name)
  | _, _ => none

theorem violationIf_eq_some_iff {condition : Bool} {v w : Violation} :
    violationIf condition v = some w ↔ condition = true ∧ v = w := by
  cases condition <;> simp [violationIf]

theorem Part.violation?_eq_some_iff {rule : Rule} {part : Part} {v : Violation} :
    part.violation? rule = some v ↔ Offence rule part v := by
  constructor
  · intro found
    unfold violation? at found
    split at found
    case h_3 =>
      rcases Option.or_eq_some_iff.mp found with first | ⟨none, second⟩
      · rcases violationIf_eq_some_iff.mp first with ⟨blank, rfl⟩
        exact .noServiceName blank
      · rcases violationIf_eq_some_iff.mp second with ⟨blank, rfl⟩
        exact .noImplementation (violationIf_eq_none_iff.mp none) blank
    case h_10 => cases found
    all_goals
      rcases violationIf_eq_some_iff.mp found with ⟨holds, rfl⟩
      constructor
      simpa using holds
  · intro offends
    cases offends <;> simp_all [violation?, violationIf]

theorem Part.violation?_eq_none_iff {rule : Rule} {part : Part} :
    part.violation? rule = none ↔ ∀ v, ¬ Offence rule part v := by
  simp only [Option.eq_none_iff_forall_ne_some, ne_eq, violation?_eq_some_iff]

/-! ## Texts about offences -/

namespace Violation

/-- What is said about a violation. -/
inductive IsToldBy : Violation → String → Prop where
  | noId : IsToldBy .noId "Component id cannot be empty"
  | noVersion : IsToldBy .noVersion "Component version cannot be empty"
  | noServiceName (index : Nat) :
      IsToldBy (.noServiceName index) ("Service[" ++ toString index ++ "] name cannot be empty")
  | noImplementation (service : String) :
      IsToldBy (.noImplementation service)
        ("Service '" ++ service ++ "' implementation class cannot be empty")
  | repeatedOperation (service operation : String) :
      IsToldBy (.repeatedOperation service operation)
        ("Service '" ++ service ++ "' declares operation '" ++ operation ++ "' more than once")
  | longConfigName (service : String) (length : Nat) :
      IsToldBy (.longConfigName service length)
        ("Config parameter name in service '" ++ service ++ "' is " ++ toString length ++
          " characters long, maximum is 100")
  | untitledOperation (operation service : String) :
      IsToldBy (.untitledOperation operation service)
        ("Operation '" ++ operation ++ "' in service '" ++ service ++ "' has no title")
  | untitledParameter (parameter operation : String) :
      IsToldBy (.untitledParameter parameter operation)
        ("Parameter '" ++ parameter ++ "' of operation '" ++ operation ++ "' has no title")
  | untitledFault (fault operation : String) :
      IsToldBy (.untitledFault fault operation)
        ("Fault '" ++ fault ++ "' of operation '" ++ operation ++ "' has no title")
  | untitledConfigParam (param service : String) :
      IsToldBy (.untitledConfigParam param service)
        ("Config parameter '" ++ param ++ "' in service '" ++ service ++ "' has no title")

theorem isToldBy_text (v : Violation) : v.IsToldBy v.text := by
  cases v with
  | longConfigName service length =>
      have longest : intText longestConfigName = "100" := by decide
      have maximum : " characters long, maximum is " ++ "100" =
          " characters long, maximum is 100" := by
        decide
      change IsToldBy _ ("Config parameter name in service '" ++ service ++ "' is " ++
        toString length ++ " characters long, maximum is " ++ intText longestConfigName)
      rw [longest, String.append_assoc, maximum]
      exact .longConfigName service length
  | _ => constructor

/-- One text is said about a violation, and no other. -/
theorem isToldBy_iff {v : Violation} {said : String} : v.IsToldBy said ↔ v.text = said := by
  constructor
  · intro told
    have unique {a b : String} (first : v.IsToldBy a) (second : v.IsToldBy b) : a = b := by
      cases first <;> cases second <;> rfl
    exact unique v.isToldBy_text told
  · rintro rfl
    exact v.isToldBy_text

/-- What tells the part that a violation is about from others: its index, or its name and the name
of the part that it is in. -/
def marks : Violation → List String
  | .noId => []
  | .noVersion => []
  | .noServiceName index => [toString index]
  | .noImplementation service => [service]
  | .repeatedOperation service operation => [service, operation]
  | .longConfigName service length => [service, toString length]
  | .untitledOperation operation service => [operation, service]
  | .untitledParameter parameter operation => [parameter, operation]
  | .untitledFault fault operation => [fault, operation]
  | .untitledConfigParam param service => [param, service]

/-- What is said about a violation names the part that it is about. -/
theorem IsToldBy.isInfix {v : Violation} {said : String} (told : v.IsToldBy said) :
    ∀ mark ∈ v.marks, mark.toList <:+: said.toList := by
  cases told with
  | noId => exact List.forall_mem_nil _
  | noVersion => exact List.forall_mem_nil _
  | noServiceName index => exact isInfix_joined [_, toString index, _] (by simp [marks])
  | noImplementation service => exact isInfix_joined [_, service, _] (by simp [marks])
  | longConfigName service length =>
      exact isInfix_joined [_, service, _, toString length, _] (by simp [marks])
  | repeatedOperation first second
  | untitledOperation first second
  | untitledParameter first second
  | untitledFault first second
  | untitledConfigParam first second =>
      exact isInfix_joined [_, first, _, second, _] (by simp [marks])

end Violation

/-! ## Looking for the first offence -/

theorem findSome?_flatMap {α β γ : Type} (items : List α) (inner : α → List β) (f : β → Option γ) :
    (items.flatMap inner).findSome? f = items.findSome? fun item => (inner item).findSome? f := by
  induction items with
  | nil => rfl
  | cons item rest ih =>
      rw [List.flatMap_cons, List.findSome?_append, ih, List.findSome?_cons]
      cases (inner item).findSome? f <;> rfl

/-- Numbering the services while going over them is going over the numbered services. -/
theorem unnamedServices?_eq_findSome? (index : Nat) (services : List Service) :
    unnamedServices? index services =
      ((services.zipIdx index).map fun entry => Part.service entry.2 entry.1).findSome?
        (Part.violation? .serviceImplementation) := by
  induction services generalizing index with
  | nil => rfl
  | cons s rest ih =>
      rw [unnamedServices?, ih, ← Option.or_assoc, List.zipIdx_cons, List.map_cons,
        List.findSome?_cons]
      simp only [Part.violation?]
      split <;> simp_all

/-- The names that were seen are the names of the operations in front. -/
theorem repeatedName?_eq_findSome? (s : Service) {seen : List String} {earlier : List Operation}
    (same : ∀ name, name ∈ seen ↔ name ∈ earlier.map (·.name)) (operations : List Operation) :
    (repeatedName? seen (operations.map (·.name))).map (.repeatedOperation s.name) =
      ((withEarlier earlier operations).map fun entry =>
        Part.operation s entry.1 entry.2).findSome? (Part.violation? .uniqueOperationNames) := by
  induction operations generalizing seen earlier with
  | nil => rfl
  | cons o rest ih =>
      rw [List.map_cons, repeatedName?, withEarlier, List.map_cons, List.findSome?_cons]
      by_cases repeated : o.name ∈ earlier.map (·.name)
      · have known : seen.contains o.name = true := by simpa [same] using repeated
        rw [if_pos known]
        simp [Part.violation?, violationIf, repeated]
      · have fresh : ¬ seen.contains o.name = true := by simpa [same] using repeated
        have later : ∀ name, name ∈ o.name :: seen ↔ name ∈ (earlier ++ [o]).map (·.name) := by
          intro name
          simp [same, or_comm]
        rw [if_neg fresh, ih later]
        simp [Part.violation?, violationIf, repeated]

theorem Service.longConfigName?_eq_findSome? (s : Service) :
    s.longConfigName? = s.configParamParts.findSome? (Part.violation? .configParamNameLength) := by
  rw [configParamParts, List.findSome?_map]
  rfl

theorem Operation.untitled?_eq_findSome? (s : Service) (earlier : List Operation)
    (o : Operation) :
    o.untitled? s.name =
      (.operation s earlier o :: o.innerParts).findSome? (Part.violation? .titlesPresent) := by
  rw [innerParts, List.findSome?_cons, List.findSome?_append, List.findSome?_map,
    List.findSome?_map, untitled?]
  simp only [Part.violation?]
  cases violationIf (isBlank o.title) (.untitledOperation o.name s.name) <;> rfl

theorem Service.untitled?_eq_findSome? (s : Service) :
    s.untitled? = s.titledParts.findSome? (Part.violation? .titlesPresent) := by
  have operations : s.operations.findSome? (·.untitled? s.name) =
      (withEarlier [] s.operations).findSome? fun entry =>
        (.operation s entry.1 entry.2 :: entry.2.innerParts).findSome?
          (Part.violation? .titlesPresent) := by
    conv_lhs => rw [← map_snd_withEarlier [] s.operations, List.findSome?_map]
    congr 1
    funext entry
    exact entry.2.untitled?_eq_findSome? s entry.1
  rw [titledParts, List.findSome?_append, findSome?_flatMap, configParamParts, List.findSome?_map,
    untitled?, operations]
  rfl

/-- A rule has the violation that is found first among the parts that it looks at. -/
theorem Component.violation?_eq_findSome? (c : Component) (rule : Rule) :
    c.violation? rule = (c.parts rule).findSome? (Part.violation? rule) := by
  cases rule with
  | requiredFields =>
      simp only [violation?, parts, List.findSome?_cons, List.findSome?_nil, Part.violation?]
      cases violationIf (saysNothing c.id) .noId <;>
        cases violationIf (saysNothing c.version) .noVersion <;> rfl
  | serviceImplementation => exact unnamedServices?_eq_findSome? 0 c.services
  | uniqueOperationNames =>
      rw [violation?, parts, findSome?_flatMap]
      congr 1
      funext s
      exact repeatedName?_eq_findSome? s (by simp) s.operations
  | configParamNameLength =>
      rw [violation?, parts, findSome?_flatMap]
      congr 1
      funext s
      exact s.longConfigName?_eq_findSome?
  | titlesPresent =>
      rw [violation?, parts, findSome?_flatMap]
      congr 1
      funext s
      exact s.untitled?_eq_findSome?

/-- The first of the parts that a rule looks at which offends it, as the violation that it is. -/
def Component.FirstOffence (c : Component) (rule : Rule) (v : Violation) : Prop :=
  ∃ before part after, c.parts rule = before ++ part :: after ∧ Offence rule part v ∧
    ∀ earlier ∈ before, ∀ w, ¬ Offence rule earlier w

theorem Component.violation?_eq_some_iff {c : Component} {rule : Rule} {v : Violation} :
    c.violation? rule = some v ↔ c.FirstOffence rule v := by
  simp only [violation?_eq_findSome?, List.findSome?_eq_some_iff, Part.violation?_eq_some_iff,
    Part.violation?_eq_none_iff, FirstOffence]

/-! ## Names that are used twice -/

/-- The first of some names that has occurred before: it is one of those seen before or of those in
front of it, and none in front of it has occurred before. -/
def IsFirstRepeat (seen names : List String) (name : String) : Prop :=
  ∃ earlier later, names = earlier ++ name :: later ∧ earlier.Nodup ∧
    (∀ other ∈ earlier, other ∉ seen) ∧ (name ∈ seen ∨ name ∈ earlier)

section FirstRepeat

variable {seen rest : List String} {first name : String}

theorem isFirstRepeat_cons_of_mem (known : first ∈ seen) :
    IsFirstRepeat seen (first :: rest) name ↔ first = name := by
  constructor
  · rintro ⟨- | ⟨other, earlier⟩, later, split, _, fresh, _⟩
    · cases split
      rfl
    · cases split
      exact absurd known (fresh first (List.mem_cons_self ..))
  · rintro rfl
    exact ⟨[], rest, rfl, .nil, by simp, .inl known⟩

/-- A name that is new joins those seen before. -/
theorem isFirstRepeat_cons_of_notMem (new : first ∉ seen) :
    IsFirstRepeat seen (first :: rest) name ↔ IsFirstRepeat (first :: seen) rest name := by
  constructor
  · rintro ⟨- | ⟨other, earlier⟩, later, split, distinct, fresh, again⟩
    · cases split
      rcases again with inSeen | impossible
      · exact absurd inSeen new
      · cases impossible
    · cases split
      rcases List.nodup_cons.mp distinct with ⟨absent, others⟩
      refine ⟨earlier, later, rfl, others, ?_, ?_⟩
      · rintro item member (_ | ⟨_, inSeen⟩)
        · exact absent member
        · exact fresh item (List.mem_cons_of_mem _ member) inSeen
      · simpa [or_assoc, or_comm, or_left_comm] using again
  · rintro ⟨earlier, later, rfl, distinct, fresh, again⟩
    refine ⟨first :: earlier, later, rfl, ?_, ?_, ?_⟩
    · refine List.nodup_cons.mpr ⟨?_, distinct⟩
      intro member
      exact fresh first member (List.mem_cons_self ..)
    · rw [List.forall_mem_cons]
      refine ⟨new, ?_⟩
      intro other member inSeen
      exact fresh other member (List.mem_cons_of_mem first inSeen)
    · simpa [or_assoc, or_comm, or_left_comm] using again

end FirstRepeat

theorem repeatedName?_eq_some_iff {seen names : List String} {name : String} :
    repeatedName? seen names = some name ↔ IsFirstRepeat seen names name := by
  induction names generalizing seen with
  | nil => simp [repeatedName?, IsFirstRepeat]
  | cons first rest ih =>
      rw [repeatedName?, List.contains_eq_mem]
      by_cases known : first ∈ seen
      · rw [if_pos (by simpa using known), isFirstRepeat_cons_of_mem known, Option.some.injEq]
      · rw [if_neg (by simpa using known), ih, isFirstRepeat_cons_of_notMem known]

/-- The second occurrence of a name in a service, in front of which no name of the service and of
no service before it occurs twice. -/
def Component.FirstRepetition (c : Component) (service name : String) : Prop :=
  ∃ before s after earlier later, c.services = before ++ s :: after ∧
    (∀ other ∈ before, other.operationNames.Nodup) ∧ s.name = service ∧
    s.operationNames = earlier ++ name :: later ∧ earlier.Nodup ∧ earlier.count name = 1

theorem Service.repeatedOperation?_eq_some_iff {s : Service} {v : Violation} :
    s.repeatedOperation? = some v ↔
      ∃ earlier name later, s.operationNames = earlier ++ name :: later ∧ earlier.Nodup ∧
        earlier.count name = 1 ∧ v = .repeatedOperation s.name name := by
  simp only [repeatedOperation?, Option.map_eq_some_iff, repeatedName?_eq_some_iff, IsFirstRepeat]
  constructor
  · rintro ⟨name, ⟨earlier, later, split, distinct, _, again⟩, rfl⟩
    have member : name ∈ earlier := by simpa using again
    exact ⟨earlier, name, later, split, distinct, distinct.count.trans (if_pos member), rfl⟩
  · rintro ⟨earlier, name, later, split, distinct, once, rfl⟩
    have member : name ∈ earlier := List.count_pos_iff.mp (once ▸ Nat.one_pos)
    exact ⟨name, ⟨earlier, later, split, distinct, by simp, .inr member⟩, rfl⟩

theorem Component.firstOffence_repeatedOperation_iff {c : Component} {service name : String} :
    c.FirstOffence .uniqueOperationNames (.repeatedOperation service name) ↔
      c.FirstRepetition service name := by
  rw [← violation?_eq_some_iff, violation?, List.findSome?_eq_some_iff]
  simp only [Service.repeatedOperation?_eq_some_iff, Service.repeatedOperation?_eq_none_iff]
  constructor
  · rintro ⟨before, s, after, split, ⟨earlier, _, later, names, distinct, once, same⟩, others⟩
    cases same
    exact ⟨before, s, after, earlier, later, split, others, rfl, names, distinct, once⟩
  · rintro ⟨before, s, after, earlier, later, split, others, rfl, names, distinct, once⟩
    exact ⟨before, s, after, split, ⟨earlier, name, later, names, distinct, once, rfl⟩, others⟩

/-! ## Documents without offences -/

/-- What all rules together ask of a document. -/
structure Component.IsValid (c : Component) : Prop where
  id : ∃ id, c.id = some id ∧ isBlank id = false
  version : ∃ version, c.version = some version ∧ isBlank version = false
  serviceNames : ∀ s ∈ c.services, isBlank s.name = false
  implementations : ∀ s ∈ c.services, isBlank s.implementationClass = false
  operationNames : ∀ s ∈ c.services, (s.operations.map (·.name)).Nodup
  configParamNames : ∀ s ∈ c.services, ∀ p ∈ s.configParams, p.name.length ≤ 100
  operationTitles : ∀ s ∈ c.services, ∀ o ∈ s.operations, isBlank o.title = false
  inputTitles : ∀ s ∈ c.services, ∀ o ∈ s.operations, ∀ p ∈ o.inputs, isBlank p.title = false
  outputTitles : ∀ s ∈ c.services, ∀ o ∈ s.operations, ∀ p ∈ o.outputs, isBlank p.title = false
  faultTitles : ∀ s ∈ c.services, ∀ o ∈ s.operations, ∀ f ∈ o.faults, isBlank f.title = false
  configParamTitles : ∀ s ∈ c.services, ∀ p ∈ s.configParams, isBlank p.title = false

theorem saysNothing_eq_false_iff {s : Option String} :
    saysNothing s = false ↔ ∃ text, s = some text ∧ isBlank text = false := by
  cases s <;> simp [saysNothing]

theorem Component.isValid_iff {c : Component} : c.IsValid ↔ ∀ rule, c.Keeps rule := by
  constructor
  · intro valid rule
    cases rule with
    | requiredFields =>
        exact ⟨saysNothing_eq_false_iff.mpr valid.id, saysNothing_eq_false_iff.mpr valid.version⟩
    | serviceImplementation =>
        intro s member
        exact ⟨valid.serviceNames s member, valid.implementations s member⟩
    | uniqueOperationNames => exact valid.operationNames
    | configParamNameLength => exact valid.configParamNames
    | titlesPresent =>
        intro s member
        simp only [Service.titles, Operation.titles, List.forall_mem_append, List.forall_mem_map,
          List.forall_mem_flatMap, List.forall_mem_cons]
        refine ⟨?_, valid.configParamTitles s member⟩
        intro o inside
        exact ⟨valid.operationTitles s member o inside, ⟨valid.inputTitles s member o inside,
          valid.outputTitles s member o inside⟩, valid.faultTitles s member o inside⟩
  · intro keeps
    have required := keeps .requiredFields
    have services := keeps .serviceImplementation
    have titles := keeps .titlesPresent
    simp only [Keeps, Service.titles, Operation.titles, List.forall_mem_append,
      List.forall_mem_map, List.forall_mem_flatMap, List.forall_mem_cons] at titles
    constructor
    case id => exact saysNothing_eq_false_iff.mp required.1
    case version => exact saysNothing_eq_false_iff.mp required.2
    case serviceNames => exact fun s member => (services s member).1
    case implementations => exact fun s member => (services s member).2
    case operationNames => exact keeps .uniqueOperationNames
    case configParamNames => exact keeps .configParamNameLength
    case operationTitles => exact fun s member o inside => ((titles s member).1 o inside).1
    case inputTitles => exact fun s member o inside => ((titles s member).1 o inside).2.1.1
    case outputTitles => exact fun s member o inside => ((titles s member).1 o inside).2.1.2
    case faultTitles => exact fun s member o inside => ((titles s member).1 o inside).2.2
    case configParamTitles => exact fun s member => (titles s member).2

/-! ## Rules of any kind -/

/-- A rule of any kind: its name, and what it says against a document. -/
structure Check where
  name : String
  objection? : Component → Option String

/-- What is said about a document that a rule says something against. -/
def Check.complaint? (check : Check) (c : Component) : Option String :=
  (check.objection? c).map fun text => "[" ++ check.name ++ "] " ++ text

/-- Checks rules of any kind in the order given. -/
def Component.checkWith (checks : List Check) (c : Component) : Except String Unit :=
  match checks.findSome? (·.complaint? c) with
  | some message => .error message
  | none => .ok ()

/-- One of the rules of documents, as a rule of any kind. -/
def Rule.check (rule : Rule) : Check where
  name := rule.name
  objection? := fun c => (c.violation? rule).map Violation.text

@[simp]
theorem Rule.name_check (rule : Rule) : rule.check.name = rule.name :=
  rfl

@[simp]
theorem Rule.objection?_check (rule : Rule) (c : Component) :
    rule.check.objection? c = (c.violation? rule).map Violation.text :=
  rfl

namespace Component

theorem complaint?_check (c : Component) (rule : Rule) :
    rule.check.complaint? c = (c.violation? rule).map Violation.message := by
  rw [Check.complaint?, Rule.objection?_check, Rule.name_check, Option.map_map]
  cases found : c.violation? rule with
  | none => rfl
  | some v => simp [Violation.message, rule_of_violation? found]

/-- Validation checks the rules of documents as rules of any kind are checked. -/
theorem mapError_validateWith (c : Component) (rules : List Rule) :
    (c.validateWith rules).mapError Violation.message = c.checkWith (rules.map Rule.check) := by
  have found : (rules.map Rule.check).findSome? (·.complaint? c) =
      (rules.findSome? c.violation?).map Violation.message := by
    rw [List.findSome?_map, List.map_findSome?]
    congr 1
    funext rule
    exact c.complaint?_check rule
  rw [checkWith, found, validateWith]
  cases rules.findSome? c.violation? <;> rfl

theorem checkWith_eq_ok_iff {c : Component} {checks : List Check} :
    c.checkWith checks = .ok () ↔ ∀ check ∈ checks, check.objection? c = none := by
  have silent : checks.findSome? (·.complaint? c) = none ↔
      ∀ check ∈ checks, check.objection? c = none := by
    simp only [List.findSome?_eq_none_iff, Check.complaint?, Option.map_eq_none_iff]
  rw [← silent, checkWith]
  cases checks.findSome? (·.complaint? c) <;> simp

/-- The message of the first of some rules that says something against a document. -/
def FirstObjection (c : Component) (checks : List Check) (message : String) : Prop :=
  ∃ before check after text, checks = before ++ check :: after ∧
    check.objection? c = some text ∧ message = "[" ++ check.name ++ "] " ++ text ∧
    ∀ earlier ∈ before, earlier.objection? c = none

theorem checkWith_eq_error_iff {c : Component} {checks : List Check} {message : String} :
    c.checkWith checks = .error message ↔ c.FirstObjection checks message := by
  have spoken : checks.findSome? (·.complaint? c) = some message ↔
      c.FirstObjection checks message := by
    simp only [List.findSome?_eq_some_iff, Check.complaint?, Option.map_eq_none_iff,
      Option.map_eq_some_iff, FirstObjection]
    constructor
    · rintro ⟨before, check, after, split, ⟨text, said, rfl⟩, others⟩
      exact ⟨before, check, after, text, split, said, rfl, others⟩
    · rintro ⟨before, check, after, text, split, said, rfl, others⟩
      exact ⟨before, check, after, split, ⟨text, said, rfl⟩, others⟩
  rw [← spoken, checkWith]
  cases checks.findSome? (·.complaint? c) <;> simp

/-- A document is valid exactly if it has all that the rules ask for.  Checking rules of any kind
gives nothing to say exactly if none of them has anything against the document, in whatever order
and however often they are given; otherwise it gives what the first of them that has says, behind
its name.  Validation checks the five rules of documents in this way, and what each of them says is
about the first part that offends it, which it names; of a name that is used twice, that is the
second use where nothing in front of it is used twice. -/
theorem validation_decides (c : Component) :
    (c.validate = .ok () ↔ c.IsValid) ∧
      (∀ checks, c.checkWith checks = .ok () ↔ ∀ check ∈ checks, check.objection? c = none) ∧
      (∀ checks others, (∀ check, check ∈ checks ↔ check ∈ others) →
        (c.checkWith checks = .ok () ↔ c.checkWith others = .ok ())) ∧
      (∀ checks message,
        c.checkWith checks = .error message ↔ c.FirstObjection checks message) ∧
      (∀ rules, (c.validateWith rules).mapError Violation.message =
        c.checkWith (rules.map Rule.check)) ∧
      c.validate.mapError Violation.message = c.checkWith (Rule.all.map Rule.check) ∧
      Rule.all.map (·.check.name) = ["RequiredFields", "ServiceImplementation",
        "UniqueOperationNames", "ConfigParamNameLength", "TitlesPresent"] ∧
      (∀ rule text, rule.check.objection? c = some text ↔
        ∃ v, c.FirstOffence rule v ∧ v.IsToldBy text) ∧
      (∀ v text, Violation.IsToldBy v text → ∀ mark ∈ v.marks, mark.toList <:+: text.toList) ∧
      ∀ service name, c.FirstOffence .uniqueOperationNames (.repeatedOperation service name) ↔
        c.FirstRepetition service name := by
  refine ⟨?valid, ?each, ?anyOrder, ?first, ?rules, ?all, ?names, ?offence, ?marks, ?repetition⟩
  case valid => rw [validate_eq_ok_iff, isValid_iff]
  case each => exact fun checks => checkWith_eq_ok_iff
  case anyOrder =>
    intro checks others same
    simp only [checkWith_eq_ok_iff, same]
  case first => exact fun checks message => checkWith_eq_error_iff
  case rules => exact c.mapError_validateWith
  case all => exact c.mapError_validateWith Rule.all
  case names => rfl
  case offence =>
    intro rule text
    simp only [Rule.objection?_check, Option.map_eq_some_iff, violation?_eq_some_iff,
      Violation.isToldBy_iff]
  case marks => exact fun v text told => told.isInfix
  case repetition => exact fun service name => firstOffence_repeatedOperation_iff

end Component

end ComponentGen.Document

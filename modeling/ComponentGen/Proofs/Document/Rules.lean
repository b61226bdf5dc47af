import ComponentGen.Document.Validation
import Mathlib.Data.List.Nodup

/-!
# What the rules ask of a document

Each rule asks something of the document as a whole, and gives a violation exactly if the document
does not keep to it.  A document is valid if it keeps all rules.
-/

namespace ComponentGen.Document

open Text

/-! ## Keeping a rule -/

/-- The titles in an operation. -/
def Operation.titles (o : Operation) : List String :=
  o.title :: ((o.inputs ++ o.outputs).map (·.title) ++ o.faults.map (·.title))

/-- The titles in a service. -/
def Service.titles (s : Service) : List String :=
  s.operations.flatMap Operation.titles ++ s.configParams.map (·.title)

/-- The names of the operations of a service. -/
def Service.operationNames (s : Service) : List String := s.operations.map (·.name)

/-- What a rule asks of a document. -/
def Component.Keeps (c : Component) : Rule → Prop
  | .requiredFields => saysNothing c.id = false ∧ saysNothing c.version = false
  | .serviceImplementation =>
      ∀ s ∈ c.services, isBlank s.name = false ∧ isBlank s.implementationClass = false
  | .uniqueOperationNames => ∀ s ∈ c.services, s.operationNames.Nodup
  | .configParamNameLength =>
      ∀ s ∈ c.services, ∀ p ∈ s.configParams, p.name.length ≤ longestConfigName
  | .titlesPresent => ∀ s ∈ c.services, ∀ title ∈ s.titles, isBlank title = false

/-! ## The violations of each rule -/

theorem violationIf_eq_none_iff {condition : Bool} {v : Violation} :
    violationIf condition v = none ↔ condition = false := by
  cases condition <;> simp [violationIf]

theorem unnamedServices?_eq_none_iff {index : Nat} {services : List Service} :
    unnamedServices? index services = none ↔
      ∀ s ∈ services, isBlank s.name = false ∧ isBlank s.implementationClass = false := by
  induction services generalizing index with
  | nil => simp [unnamedServices?]
  | cons s rest ih =>
      simp only [unnamedServices?, Option.or_eq_none_iff, violationIf_eq_none_iff, ih,
        List.forall_mem_cons, and_assoc]

/-- No name is repeated if the names are distinct and differ from those seen before. -/
theorem repeatedName?_eq_none_iff {seen names : List String} :
    repeatedName? seen names = none ↔ names.Nodup ∧ ∀ name ∈ names, name ∉ seen := by
  induction names generalizing seen with
  | nil => simp [repeatedName?]
  | cons name rest ih =>
      by_cases repeated : name ∈ seen
      · simp [repeatedName?, repeated]
      · rw [repeatedName?, List.contains_eq_mem, if_neg (by simpa using repeated), ih,
          List.nodup_cons, List.forall_mem_cons]
        constructor
        · rintro ⟨distinct, fresh⟩
          refine ⟨⟨?_, distinct⟩, repeated, ?_⟩
          · intro member
            exact fresh name member (List.mem_cons_self ..)
          · intro other member inSeen
            exact fresh other member (List.mem_cons_of_mem name inSeen)
        · rintro ⟨⟨absent, distinct⟩, _, fresh⟩
          refine ⟨distinct, ?_⟩
          rintro other member (_ | ⟨_, inSeen⟩)
          · exact absent member
          · exact fresh other member inSeen

theorem Service.repeatedOperation?_eq_none_iff {s : Service} :
    s.repeatedOperation? = none ↔ s.operationNames.Nodup := by
  rw [repeatedOperation?, Option.map_eq_none_iff, repeatedName?_eq_none_iff, operationNames]
  simp

theorem Service.longConfigName?_eq_none_iff {s : Service} :
    s.longConfigName? = none ↔ ∀ p ∈ s.configParams, p.name.length ≤ longestConfigName := by
  simp [longConfigName?, violationIf_eq_none_iff]

theorem Operation.untitled?_eq_none_iff {service : String} {o : Operation} :
    o.untitled? service = none ↔ ∀ title ∈ o.titles, isBlank title = false := by
  simp only [untitled?, Option.or_eq_none_iff, violationIf_eq_none_iff, List.findSome?_eq_none_iff,
    titles, List.forall_mem_cons, List.forall_mem_append, List.forall_mem_map]

theorem Service.untitled?_eq_none_iff {s : Service} :
    s.untitled? = none ↔ ∀ title ∈ s.titles, isBlank title = false := by
  simp only [untitled?, Option.or_eq_none_iff, violationIf_eq_none_iff, List.findSome?_eq_none_iff,
    Operation.untitled?_eq_none_iff, titles, List.forall_mem_append, List.forall_mem_map,
    List.forall_mem_flatMap]

namespace Component

/-- A rule has no violation exactly if the document keeps it. -/
theorem violation?_eq_none_iff {c : Component} {rule : Rule} :
    c.violation? rule = none ↔ c.Keeps rule := by
  cases rule with
  | requiredFields =>
      simp only [violation?, Option.or_eq_none_iff, violationIf_eq_none_iff, Keeps]
  | serviceImplementation => exact unnamedServices?_eq_none_iff
  | uniqueOperationNames =>
      simp only [violation?, List.findSome?_eq_none_iff, Service.repeatedOperation?_eq_none_iff,
        Keeps]
  | configParamNameLength =>
      simp only [violation?, List.findSome?_eq_none_iff, Service.longConfigName?_eq_none_iff,
        Keeps]
  | titlesPresent =>
      simp only [violation?, List.findSome?_eq_none_iff, Service.untitled?_eq_none_iff, Keeps]

/-! ## Validation -/

theorem validateWith_eq_ok_iff {c : Component} {rules : List Rule} :
    c.validateWith rules = .ok () ↔ ∀ rule ∈ rules, c.Keeps rule := by
  have clean : rules.findSome? c.violation? = none ↔ ∀ rule ∈ rules, c.Keeps rule := by
    simp only [List.findSome?_eq_none_iff, violation?_eq_none_iff]
  rw [← clean, validateWith]
  cases rules.findSome? c.violation? <;> simp

/-- A document is valid exactly if it keeps all rules. -/
theorem validate_eq_ok_iff {c : Component} : c.validate = .ok () ↔ ∀ rule, c.Keeps rule := by
  rw [validate, validateWith_eq_ok_iff]
  constructor
  · intro each rule
    exact each rule (by cases rule <;> decide)
  · intro each rule _
    exact each rule

/-- Validation fails with a violation of one of the rules. -/
theorem violation?_of_validateWith {c : Component} {rules : List Rule} {v : Violation}
    (failed : c.validateWith rules = .error v) :
    ∃ rule ∈ rules, c.violation? rule = some v := by
  rw [validateWith] at failed
  split at failed
  case h_1 found first =>
    cases failed
    exact List.exists_of_findSome?_eq_some first
  case h_2 => cases failed

end Component

/-! ## The rule of a violation -/

theorem eq_of_violationIf {condition : Bool} {v w : Violation}
    (found : violationIf condition v = some w) : v = w := by
  cases condition with
  | false => cases found
  | true => exact Option.some.inj found

theorem rule_of_or {first second : Option Violation} {v : Violation} {rule : Rule}
    (found : first.or second = some v) (ofFirst : first = some v → v.rule = rule)
    (ofSecond : second = some v → v.rule = rule) : v.rule = rule := by
  cases first with
  | none => exact ofSecond (by simpa using found)
  | some w => exact ofFirst (by simpa using found)

theorem rule_of_violationIf {condition : Bool} {v w : Violation}
    (found : violationIf condition v = some w) : w.rule = v.rule := by
  rw [eq_of_violationIf found]

theorem rule_of_findSome? {α : Type} {items : List α} {f : α → Option Violation} {v : Violation}
    {rule : Rule} (found : items.findSome? f = some v)
    (each : ∀ item, f item = some v → v.rule = rule) : v.rule = rule := by
  obtain ⟨item, _, here⟩ := List.exists_of_findSome?_eq_some found
  exact each item here

theorem rule_of_unnamedServices? {index : Nat} {services : List Service} {v : Violation}
    (found : unnamedServices? index services = some v) : v.rule = .serviceImplementation := by
  induction services generalizing index with
  | nil => cases found
  | cons s rest ih =>
      exact rule_of_or found rule_of_violationIf fun later =>
        rule_of_or later rule_of_violationIf ih

/-- The violations of a rule are violations of it. -/
theorem Component.rule_of_violation? {c : Component} {rule : Rule} {v : Violation}
    (found : c.violation? rule = some v) : v.rule = rule := by
  cases rule with
  | requiredFields => exact rule_of_or found rule_of_violationIf rule_of_violationIf
  | serviceImplementation => exact rule_of_unnamedServices? found
  | uniqueOperationNames =>
      apply rule_of_findSome? found
      intro s here
      obtain ⟨name, _, rfl⟩ := Option.map_eq_some_iff.mp here
      rfl
  | configParamNameLength =>
      apply rule_of_findSome? found
      intro s here
      exact rule_of_findSome? here fun p => rule_of_violationIf
  | titlesPresent =>
      apply rule_of_findSome? found
      intro s here
      apply rule_of_or here
      · intro inOperation
        apply rule_of_findSome? inOperation
        intro o untitled
        exact rule_of_or untitled rule_of_violationIf fun inside =>
          rule_of_or inside (rule_of_findSome? · fun p => rule_of_violationIf)
            (rule_of_findSome? · fun f => rule_of_violationIf)
      · intro inParam
        exact rule_of_findSome? inParam fun p => rule_of_violationIf

/-- Validation fails in a rule that the document does not keep. -/
theorem Component.not_keeps_of_validateWith {c : Component} {rules : List Rule} {v : Violation}
    (failed : c.validateWith rules = .error v) : ¬ c.Keeps v.rule := by
  obtain ⟨rule, _, found⟩ := violation?_of_validateWith failed
  rw [rule_of_violation? found, ← violation?_eq_none_iff, found]
  exact Option.some_ne_none v

/-! ## Names and titles -/

/-- An operation with names for itself, its inputs and its faults. -/
structure Operation.IsNamed (o : Operation) : Prop where
  own : isBlank o.name = false
  inputs : ∀ p ∈ o.inputs, isBlank p.name = false
  faults : ∀ f ∈ o.faults, isBlank f.name = false

/-- A document with a name and a version for itself and names for its services, their operations
and the inputs and faults of these. -/
structure Component.IsNamed (c : Component) : Prop where
  id : saysNothing c.id = false
  version : saysNothing c.version = false
  services : ∀ s ∈ c.services, isBlank s.name = false
  operations : ∀ s ∈ c.services, ∀ o ∈ s.operations, o.IsNamed

/-! ## Outputs and configuration parameters -/

/-- A configuration parameter with a title and a name that is not too long. -/
structure ConfigParam.IsPresentable (p : ConfigParam) : Prop where
  titled : isBlank p.title = false
  short : p.name.length ≤ longestConfigName

/-- A service in which nothing is wrong with outputs and configuration parameters. -/
structure Service.IsPresentable (s : Service) : Prop where
  outputs : ∀ o ∈ s.operations, ∀ p ∈ o.outputs, isBlank p.title = false
  configParams : ∀ p ∈ s.configParams, p.IsPresentable

/-- An operation without its outputs. -/
def Operation.core (o : Operation) : Operation := { o with outputs := [] }

/-- A service without its configuration parameters and the outputs of its operations. -/
def Service.core (s : Service) : Service :=
  { s with operations := s.operations.map Operation.core, configParams := [] }

/-- A document without outputs and configuration parameters. -/
def Component.core (c : Component) : Component := { c with services := c.services.map Service.core }

theorem findSome?_map_eq {α : Type} {items : List α} {change : α → α} {f : α → Option Violation}
    (same : ∀ item ∈ items, f (change item) = f item) :
    (items.map change).findSome? f = items.findSome? f := by
  induction items with
  | nil => rfl
  | cons item rest ih =>
      rw [List.map_cons, List.findSome?_cons, List.findSome?_cons,
        same item (List.mem_cons_self ..)]
      rw [ih fun other member => same other (List.mem_cons_of_mem item member)]

theorem Operation.untitled?_core {o : Operation} (service : String)
    (titled : ∀ p ∈ o.outputs, isBlank p.title = false) :
    o.core.untitled? service = o.untitled? service := by
  have outputs : (o.outputs.findSome? fun p =>
      violationIf (isBlank p.title) (.untitledParameter p.name o.name)) = none := by
    simpa only [List.findSome?_eq_none_iff, violationIf_eq_none_iff] using titled
  simp only [untitled?, core, List.findSome?_append, outputs, List.findSome?_nil]

namespace Service

theorem untitled?_core {s : Service} (presentable : s.IsPresentable) :
    s.core.untitled? = s.untitled? := by
  have configParams : (s.configParams.findSome? fun p =>
      violationIf (isBlank p.title) (.untitledConfigParam p.name s.name)) = none := by
    simp only [List.findSome?_eq_none_iff, violationIf_eq_none_iff]
    intro p member
    exact (presentable.configParams p member).titled
  have operations : (s.operations.map Operation.core).findSome? (·.untitled? s.name) =
      s.operations.findSome? (·.untitled? s.name) :=
    findSome?_map_eq fun o member => Operation.untitled?_core s.name (presentable.outputs o member)
  simp only [untitled?, core, configParams, operations, List.findSome?_nil]

theorem longConfigName?_core {s : Service} (presentable : s.IsPresentable) :
    s.core.longConfigName? = s.longConfigName? := by
  have short : s.longConfigName? = none := by
    rw [longConfigName?_eq_none_iff]
    intro p member
    exact (presentable.configParams p member).short
  rw [short]
  rfl

theorem repeatedOperation?_core (s : Service) :
    s.core.repeatedOperation? = s.repeatedOperation? := by
  simp only [repeatedOperation?, core, List.map_map]
  rfl

end Service

theorem unnamedServices?_core (index : Nat) (services : List Service) :
    unnamedServices? index (services.map Service.core) = unnamedServices? index services := by
  induction services generalizing index with
  | nil => rfl
  | cons s rest ih =>
      rw [List.map_cons, unnamedServices?, unnamedServices?, ih]
      rfl

namespace Component

theorem violation?_core {c : Component} (presentable : ∀ s ∈ c.services, s.IsPresentable)
    (rule : Rule) : c.core.violation? rule = c.violation? rule := by
  cases rule with
  | requiredFields => rfl
  | serviceImplementation => exact unnamedServices?_core 0 c.services
  | uniqueOperationNames => exact findSome?_map_eq fun s _ => s.repeatedOperation?_core
  | configParamNameLength =>
      exact findSome?_map_eq fun s member => Service.longConfigName?_core (presentable s member)
  | titlesPresent =>
      exact findSome?_map_eq fun s member => Service.untitled?_core (presentable s member)

/-- Where nothing is wrong with them, outputs and configuration parameters do not change the
answer of validation. -/
theorem validateWith_core {c : Component} (presentable : ∀ s ∈ c.services, s.IsPresentable)
    (rules : List Rule) : c.core.validateWith rules = c.validateWith rules := by
  have same : c.core.violation? = c.violation? := funext (violation?_core presentable)
  rw [validateWith, validateWith, same]

end Component

end ComponentGen.Document

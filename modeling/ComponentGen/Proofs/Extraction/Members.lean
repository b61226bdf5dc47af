import ComponentGen.Proofs.Extraction.OperationNames
import ComponentGen.Proofs.Extraction.Runs

/-!
# What becomes of the members of a class

Making a service goes over the members of its class twice, once for operations and once for
configuration parameters.  Each pass takes the members that have a part in it and leaves out the
others; none of those that it takes is lost, because whatever writes a property also names it and
gives it a type.  So the document shows every member that it is about once, in the order of the
class.
-/

namespace ComponentGen.Extraction

open Document Outcome Source Text

/-! ## One result for each item that has a part -/

/-- Of the items that have a part, each gives one result, and the results are in the order of the
items.  The other items give none. -/
inductive GivenInOrder {α β : Type} (hasPart : α → Prop) (gives : α → β → Prop) :
    List α → List β → Prop where
  | nil : GivenInOrder hasPart gives [] []
  | give {item : α} {result : β} {items : List α} {results : List β} (part : hasPart item)
      (given : gives item result) (others : GivenInOrder hasPart gives items results) :
      GivenInOrder hasPart gives (item :: items) (result :: results)
  | pass {item : α} {items : List α} {results : List β} (noPart : ¬ hasPart item)
      (others : GivenInOrder hasPart gives items results) :
      GivenInOrder hasPart gives (item :: items) results

theorem givenInOrder_of_filter {α β : Type} {hasPart : α → Prop} {gives : α → β → Prop}
    (takes : α → Bool) (takes_iff : ∀ item, takes item = true ↔ hasPart item) {items : List α}
    {results : List β} (each : List.Forall₂ gives (items.filter takes) results) :
    GivenInOrder hasPart gives items results := by
  induction items generalizing results with
  | nil =>
      cases each
      exact .nil
  | cons item items ih =>
      by_cases taken : takes item = true
      · rw [List.filter_cons_of_pos taken] at each
        rcases List.forall₂_cons_left_iff.mp each with ⟨result, others, given, rest, rfl⟩
        exact .give ((takes_iff item).mp taken) given (ih rest)
      · rw [List.filter_cons_of_neg taken] at each
        exact .pass (fun part => taken ((takes_iff item).mpr part)) (ih each)

/-! ## The parts that members have -/

namespace Strategy

/-- Whether a member carries the mark of factory methods. -/
def isFactory (s : Strategy) (m : Member) : Bool :=
  match s.kind with
  | .annotations => m.isAnnotatedWith factoryAnnotation
  | .doclets => m.hasTag Tagged.factoryTag

/-- The members of a class that carry the mark of factory methods. -/
def factoryMembers (s : Strategy) (c : Source.Class) : List Member := c.members.filter s.isFactory

@[simp]
theorem factoryMembers_annotations (category : Option String) (c : Source.Class) :
    factoryMembers { kind := .annotations, category } c =
      c.members.filter (·.isAnnotatedWith factoryAnnotation) :=
  rfl

@[simp]
theorem factoryMembers_doclets (category : Option String) (c : Source.Class) :
    factoryMembers { kind := .doclets, category } c =
      c.members.filter (·.hasTag Tagged.factoryTag) :=
  rfl

end Strategy

/-- A member that everyone may call and that is there for something else than to make objects or
to read or write a property. -/
structure IsCallable (s : Strategy) (m : Member) : Prop where
  isPublic : m.visibility = .isPublic
  notConstructor : m.isConstructor = false
  notAccessor : m.isAccessor = false
  notMutator : m.isMutator = false
  notFactory : s.isFactory m = false

namespace Strategy

theorem isOperation_eq (s : Strategy) (m : Member) :
    s.isOperation m = (hasOperationShape m && !s.isFactory m) := by
  rcases s with ⟨kind, category⟩
  cases kind with
  | annotations => rfl
  | doclets => rfl

theorem isOperation_iff {s : Strategy} {m : Member} :
    s.isOperation m = true ↔ IsCallable s m := by
  simp only [isOperation_eq, hasOperationShape, Member.isPublic, Bool.and_eq_true, beq_iff_eq,
    Bool.not_eq_true']
  constructor
  · rintro ⟨⟨⟨⟨isPublic, notConstructor⟩, notAccessor⟩, notMutator⟩, notFactory⟩
    exact ⟨isPublic, notConstructor, notAccessor, notMutator, notFactory⟩
  · intro callable
    exact ⟨⟨⟨⟨callable.isPublic, callable.notConstructor⟩, callable.notAccessor⟩,
      callable.notMutator⟩, callable.notFactory⟩

theorem isServiceClass_iff {s : Strategy} {c : Source.Class} :
    s.isServiceClass c = true ↔ s.isService c = .ok true := by
  unfold isServiceClass
  split
  case h_1 answer found => simp [found]
  case h_2 failure found => simp [found]

end Strategy

/-! ## Types -/

/-- How a type is named in a document: by its own name, or as the type of all objects if it was not
found or has no name. -/
inductive NamesType (type : TypeName) : String → Prop where
  | known (resolved : type.resolved = true) (named : isBlank type.name = false) :
      NamesType type type.name
  | unknown (missing : type.resolved = false ∨ isBlank type.name = true) :
      NamesType type "java.lang.Object"

theorem namesType_qualified (type : TypeName) : NamesType type type.qualified := by
  rw [TypeName.qualified]
  split
  case isTrue found =>
    rw [Bool.and_eq_true, Bool.not_eq_true'] at found
    exact .known found.1 found.2
  case isFalse missing =>
    rw [Bool.and_eq_true, Bool.not_eq_true', not_and_or, Bool.not_eq_true,
      Bool.not_eq_false] at missing
    exact .unknown missing

/-! ## Operations -/

/-- What an operation shows of the member it was made from: a name that the member wants, the
member itself where it is kept beside the name, an input for each parameter, an output if
something is returned, and a fault for each type that is thrown. -/
structure IsOperationOf (s : Strategy) (m : Member) (o : Operation) : Prop where
  name : ∃ earlier, Wants earlier m (s.suggestion m) o.name
  method : ∀ method ∈ o.method, method = m.name
  inputs : List.Forall₂
    (fun parameter (input : Document.Parameter) =>
      input.name = parameter.name ∧ NamesType parameter.type input.type)
    m.parameters o.inputs
  outputs : List.Forall₂ (fun type (output : Document.Parameter) => NamesType type output.type)
    m.returnType.toList o.outputs
  faults : List.Forall₂
    (fun type (fault : Fault) => fault.name = type.simple ∧ NamesType type fault.type)
    m.faults o.faults

/-- Whatever is returned is an output of its type. -/
theorem map_type_fillOutput? (s : Strategy) (m : Member) (node : Document.Parameter) :
    (s.fillOutput? m node).map (·.type) = m.returnType.map (·.qualified) := by
  rcases s with ⟨kind, category⟩
  cases kind with
  | annotations =>
      simp only [Strategy.fillOutput?, Annotated.fillOutput?, Option.map_map]
      congr 1
      funext type
      dsimp only [Function.comp_apply]
      split <;> rfl
  | doclets =>
      simp only [Strategy.fillOutput?, Tagged.fillOutput?, Option.map_map]
      rfl

theorem forall₂_outputs (s : Strategy) (m : Member) (node : Document.Parameter) :
    List.Forall₂ (fun type (output : Document.Parameter) => NamesType type output.type)
      m.returnType.toList (s.fillOutput? m node).toList := by
  have types := map_type_fillOutput? s m node
  cases returned : m.returnType with
  | none =>
      rw [returned, Option.map_none, Option.map_eq_none_iff] at types
      rw [types]
      exact .nil
  | some type =>
      rw [returned, Option.map_some] at types
      rcases Option.map_eq_some_iff.mp types with ⟨output, filled, same⟩
      rw [filled]
      exact .cons (same ▸ namesType_qualified type) .nil

theorem isOperationOf_operation {s : Strategy} {c : Source.Class} {earlier : List String}
    {m : Member} {o : Noted Operation} (step : s.operation c earlier m = .ok o) :
    IsOperationOf s m o.value := by
  have naming := s.operation_naming c earlier m
  rw [step] at naming
  have named := (nameOperation_eq_ok_iff.mp naming.symm).2
  have wanted : o.value.name = candidateName earlier m (s.suggestion m) :=
    congrArg OperationName.name named
  have kept : o.value.method = if m.name ∈ earlier then some m.name else none :=
    congrArg OperationName.method named
  have parts := map_eq_ok_iff.mp step
  constructor
  case name => exact ⟨earlier, wants_iff.mpr wanted⟩
  case method =>
    intro method given
    rw [kept] at given
    split at given
    · exact (Option.some.inj given).symm
    · cases given
  case inputs =>
    rcases parts with ⟨described, _, rfl⟩
    rw [List.forall₂_map_right_iff, List.forall₂_same]
    intro parameter _
    exact ⟨rfl, namesType_qualified parameter.type⟩
  case outputs =>
    rcases parts with ⟨described, _, rfl⟩
    exact forall₂_outputs s m {}
  case faults =>
    rcases parts with ⟨described, _, rfl⟩
    rw [List.forall₂_map_right_iff, List.forall₂_same]
    intro type _
    exact ⟨rfl, namesType_qualified type⟩

/-! ## Configuration parameters -/

/-- What a configuration parameter shows of the member it was made from: the property that the
member writes, and the type of the value that it takes. -/
structure IsConfigParamOf (m : Member) (p : ConfigParam) : Prop where
  property : m.propertyName? = some p.propertyName
  type : ∃ parameter, m.parameters = [parameter] ∧ NamesType parameter.type p.type

@[simp]
theorem propertyName_forProperty (p : ConfigParam) (property : String) :
    (p.forProperty property).propertyName = property := by
  unfold ConfigParam.forProperty
  split
  · rfl
  · rfl

/-- What returns nothing reads no property. -/
theorem isAccessor_of_isMutator {m : Member} (mutator : m.isMutator = true) :
    m.isAccessor = false := by
  simp only [Member.isMutator, Bool.and_eq_true] at mutator
  rcases mutator with ⟨⟨_, isVoid⟩, _⟩
  simp [Member.isAccessor, isVoid]

/-- What writes a property takes one value, and the property has a name. -/
theorem property_of_isMutator {m : Member} (mutator : m.isMutator = true) :
    ∃ parameter property, m.parameters = [parameter] ∧ m.propertyName? = some property ∧
      m.propertyType? = some parameter.type := by
  have noAccessor := isAccessor_of_isMutator mutator
  have shape := mutator
  simp only [Member.isMutator, Bool.and_eq_true, beq_iff_eq] at shape
  rcases shape with ⟨⟨⟨_, takesOne⟩, _⟩, named⟩
  rcases List.length_eq_one_iff.mp takesOne with ⟨parameter, parameters⟩
  rcases Option.isSome_iff_exists.mp named with ⟨subject, found⟩
  refine ⟨parameter, Naming.decapitalize subject, parameters, ?_, ?_⟩
  · simp [Member.propertyName?, noAccessor, mutator, found]
  · simp [Member.propertyType?, noAccessor, mutator, parameters]

/-- What a strategy adds to a configuration parameter is neither its name nor its property nor its
type. -/
theorem fillConfigParam?_eq (s : Strategy) (m : Member) (p : ConfigParam) :
    ∃ describe : ConfigParam → ConfigParam,
      s.fillConfigParam? m p = (fillProperty? m p).map describe ∧
        ∀ q, (describe q).name = q.name ∧ (describe q).property = q.property ∧
          (describe q).type = q.type := by
  rcases s with ⟨kind, category⟩
  cases kind with
  | annotations =>
      refine ⟨_, rfl, ?_⟩
      intro q
      dsimp only
      split <;> exact ⟨rfl, rfl, rfl⟩
  | doclets =>
      refine ⟨_, rfl, ?_⟩
      intro q
      exact ⟨rfl, rfl, rfl⟩

/-- A member that writes a property has a configuration parameter, with the name that the property
gives it. -/
theorem exists_fillConfigParam? (s : Strategy) {m : Member} (mutator : m.isMutator = true)
    (node : ConfigParam) :
    ∃ parameter property p, m.parameters = [parameter] ∧ m.propertyName? = some property ∧
      s.fillConfigParam? m node = some p ∧ p.name = (node.forProperty property).name ∧
      p.property = (node.forProperty property).property ∧ p.type = parameter.type.qualified := by
  rcases property_of_isMutator mutator with ⟨parameter, property, parameters, named, typed⟩
  rcases fillConfigParam?_eq s m node with ⟨describe, filled, kept⟩
  rcases found : fillProperty? m node with - | q
  · rw [fillProperty?, named, typed] at found
    cases found
  · refine ⟨parameter, property, describe q, parameters, named, by rw [filled, found]; rfl, ?_⟩
    rcases kept q with ⟨name, beside, type⟩
    rw [name, beside, type]
    rw [fillProperty?, named, typed] at found
    cases found
    exact ⟨rfl, rfl, rfl⟩

/-- No member that writes a property is lost. -/
theorem isConfigParamOf_fillConfigParam? (s : Strategy) {m : Member}
    (mutator : m.isMutator = true) (node : ConfigParam) :
    ∃ p, s.fillConfigParam? m node = some p ∧ IsConfigParamOf m p := by
  rcases exists_fillConfigParam? s mutator node with
    ⟨parameter, property, p, parameters, named, filled, name, kept, type⟩
  refine ⟨p, filled, ?_⟩
  constructor
  case property =>
    rw [named, ConfigParam.propertyName, name, kept]
    exact congrArg some (propertyName_forProperty node property).symm
  case type => exact ⟨parameter, parameters, type ▸ namesType_qualified parameter.type⟩

theorem forall₂_configParams (s : Strategy) (node : ConfigParam) {members : List Member}
    (mutators : ∀ m ∈ members, m.isMutator = true) :
    List.Forall₂ IsConfigParamOf members (members.filterMap (s.fillConfigParam? · node)) :=
  forall₂_filterMap fun m member => isConfigParamOf_fillConfigParam? s (mutators m member) node

/-! ## Documents -/

/-- What a service shows of the members of its class. -/
structure ShowsMembers (s : Strategy) (c : Source.Class) (service : Service) : Prop where
  operations : GivenInOrder (IsCallable s) (IsOperationOf s) c.members service.operations
  configParams : GivenInOrder (fun m : Member => m.isMutator = true) IsConfigParamOf c.members
    service.configParams

theorem showsMembers_service {s : Strategy} {component : Component} {c : Source.Class}
    {noted : Noted Service} (built : s.service component c = .ok noted) :
    ShowsMembers s c noted.value := by
  rcases Strategy.service_eq_ok_iff.mp built with ⟨described, operations, _, run, rfl⟩
  constructor
  case operations =>
    apply givenInOrder_of_filter s.isOperation (fun m => Strategy.isOperation_iff)
    change List.Forall₂ (IsOperationOf s) (s.operationMembers c) (operations.map (·.value))
    rw [List.forall₂_map_right_iff]
    refine (Strategy.forall₂_operation run).imp ?_
    rintro m o ⟨earlier, step⟩
    exact isOperationOf_operation step
  case configParams =>
    apply givenInOrder_of_filter s.isConfigParam (fun m => Iff.rfl)
    apply forall₂_configParams
    intro m member
    exact List.of_mem_filter member

/-- In every document that is made, each class that is a service has one service, in the order of
the tree, and the service shows the members of the class: each member that can be called as one
operation and each member that writes a property as one configuration parameter, in the order of
the class, and no others.  No member has a part in both, and none that makes objects is an
operation. -/
theorem members_of_generate {s : Strategy} {prior : Option Component} {tree : Tree}
    {report : Report} (run : s.generate prior tree = .ok report) :
    GivenInOrder (fun c => s.isService c = .ok true) (ShowsMembers s) tree.classes
        report.component.services ∧
      ∀ m, s.isOperation m = true → s.isConfigParam m = false ∧ s.isFactory m = false := by
  constructor
  · apply givenInOrder_of_filter s.isServiceClass (fun c => Strategy.isServiceClass_iff)
    refine (Strategy.services_of_generate run).imp ?_
    rintro c service ⟨noted, built, rfl⟩
    exact showsMembers_service built
  · intro m taken
    have callable := Strategy.isOperation_iff.mp taken
    exact ⟨callable.notMutator, callable.notFactory⟩

/-! ## A class with members of all kinds -/

/-- A class with a constructor, a factory method, an operation, a property that is read and
written, and a method that is not for everyone. -/
def stockClass : Source.Class where
  qualifiedName := "shop.Stock"
  members :=
    [{ name := "Stock", isConstructor := true },
      { name := "create"
        isStatic := true
        returnType := some { name := "shop.Stock" }
        tags := [{ name := "factoryMethod" }] },
      { name := "count"
        parameters :=
          [{ name := "item", type := { name := "shop.Item" } },
            { name := "filter", type := { name := "shop.Filter", resolved := false } }]
        returnType := some { name := "int" }
        faults := [{ name := "shop.NoSuchItem" }] },
      { name := "getLimit", returnType := some { name := "int" } },
      { name := "setLimit", parameters := [{ name := "limit", type := { name := "int" } }] },
      { name := "audit", visibility := .nonPublic }]

/-- The tree of that class. -/
def stockTree : Tree where
  classes := [stockClass]
  ordered := by simp

/-- The report on that tree. -/
def stockReport : Report where
  component :=
    { services :=
        [{ name := "Stock"
           implementationClass := "shop.Stock"
           factoryMethod := some "create"
           autoDeploy := some { serviceId := "Stock" }
           operations :=
             [{ name := "count"
                title := "Count"
                inputs :=
                  [{ name := "item", type := "shop.Item", title := "Item" },
                    { name := "filter", type := "java.lang.Object", title := "Filter" }]
                outputs := [{ name := "out", type := "int", title := "out" }]
                faults :=
                  [{ name := "NoSuchItem", type := "shop.NoSuchItem", title := "No such item" }] }]
           configParams := [{ name := "limit", type := "int", title := "Limit" }] }] }

theorem generate_stockTree :
    ({ kind := .doclets } : Strategy).generate none stockTree = .ok stockReport := by
  decide +kernel

theorem members_of_generate_stockTree :
    ({ kind := .doclets } : Strategy).generate none stockTree = .ok stockReport ∧
      GivenInOrder (fun c => Strategy.isService { kind := .doclets } c = .ok true)
        (ShowsMembers { kind := .doclets }) [stockClass] stockReport.component.services :=
  ⟨generate_stockTree, (members_of_generate generate_stockTree).1⟩

end ComponentGen.Extraction

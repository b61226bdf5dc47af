import ComponentGen.Proofs.Extraction.Members

/-!
# Metadata of others

Declarations carry annotations and tags for many readers.  A strategy has annotations and tags of
its own, and all others are foreign to it: whatever they say and wherever they stand among its own,
they leave no trace in the report or the failure of a run.
-/

namespace ComponentGen.Extraction

open Document Outcome Source

/-! ## What a strategy owns -/

namespace StrategyKind

/-- Whether annotations with a given name are read, in the package of the known annotations or
outside of any. -/
def ownsAnnotationName (kind : StrategyKind) (name : String) : Bool :=
  match kind with
  | .annotations =>
      ["Service", "Operation", "ConfigParam", "FactoryMethod"].any fun own =>
        name == own || name == "be.idamediafoundry.sofa.livecycle.dsc.annotations." ++ own
  | .doclets => false

/-- Whether tags with a given name are read on classes. -/
def ownsClassTag (kind : StrategyKind) (name : String) : Bool :=
  match kind with
  | .annotations => false
  | .doclets => ["smallIcon", "largeIcon", "major", "minor"].contains name

/-- Whether tags with a given name are read on members. -/
def ownsMemberTag (kind : StrategyKind) (name : String) : Bool :=
  match kind with
  | .annotations => ["param", "throws", "return"].contains name
  | .doclets =>
      ["factoryMethod", "operationName", "smallIcon", "largeIcon", "outputParamName", "required",
        "default", "param", "throws", "return"].contains name

/-- A member with nothing but the metadata that a strategy owns. -/
def ownMember (kind : StrategyKind) (m : Member) : Member :=
  { m with
    tags := m.tags.filter (kind.ownsMemberTag ·.name)
    annotations := m.annotations.filter (kind.ownsAnnotationName ·.1) }

/-- A class with nothing but the metadata that a strategy owns, its members included. -/
def ownClass (kind : StrategyKind) (c : Source.Class) : Source.Class :=
  { c with
    tags := c.tags.filter (kind.ownsClassTag ·.name)
    annotations := c.annotations.filter (kind.ownsAnnotationName ·.1)
    members := c.members.map kind.ownMember }

end StrategyKind

/-! ## Look-ups among foreign metadata -/

section LookUps

variable {m n : Metadata} {name : String}

/-- An annotation is found wherever foreign ones stand. -/
theorem annotation?_of_filter (owns : String → Bool)
    (kept : n.annotations = m.annotations.filter (owns ·.1))
    (own : ∀ key, namesAnnotation name key = true → owns key = true) :
    n.annotation? name = m.annotation? name := by
  rw [Metadata.annotation?, kept, List.find?_filter]
  congr 2
  funext entry
  cases named : namesAnnotation name entry.1 with
  | false => simp
  | true => simp [own entry.1 named]

theorem tagsNamed_of_filter {owns : String → Bool} (kept : n.tags = m.tags.filter (owns ·.name))
    (own : owns name = true) : n.tagsNamed name = m.tagsNamed name := by
  rw [Metadata.tagsNamed, kept, List.filter_filter]
  apply List.filter_congr
  intro tag _
  by_cases named : tag.name = name
  · simp [named, own]
  · simp [named]

/-- The first tag of a name is the first one of all that have the name. -/
theorem tag?_eq_head? (m : Metadata) (name : String) : m.tag? name = (m.tagsNamed name).head? :=
  (List.head?_filter ..).symm

end LookUps

namespace StrategyKind

variable {name : String}

theorem ownsAnnotationName_of_named {key : String}
    (own : name ∈ ["Service", "Operation", "ConfigParam", "FactoryMethod"])
    (named : namesAnnotation name key = true) : ownsAnnotationName .annotations key = true := by
  have qualifier : annotationPackage ++ "." =
      "be.idamediafoundry.sofa.livecycle.dsc.annotations." := by
    decide
  unfold namesAnnotation at named
  rw [qualifier] at named
  exact List.any_eq_true.mpr ⟨name, own, named⟩

theorem annotation?_ownMember (m : Member)
    (own : name ∈ ["Service", "Operation", "ConfigParam", "FactoryMethod"]) :
    (ownMember .annotations m).annotation? name = m.annotation? name :=
  annotation?_of_filter (ownsAnnotationName .annotations) rfl fun _ =>
    ownsAnnotationName_of_named own

theorem annotation?_ownClass (c : Source.Class)
    (own : name ∈ ["Service", "Operation", "ConfigParam", "FactoryMethod"]) :
    (ownClass .annotations c).annotation? name = c.annotation? name :=
  annotation?_of_filter (ownsAnnotationName .annotations) rfl fun _ =>
    ownsAnnotationName_of_named own

section Tags

variable {kind : StrategyKind}

theorem tag?_ownMember (own : kind.ownsMemberTag name = true) (m : Member) :
    (kind.ownMember m).tag? name = m.tag? name := by
  rw [tag?_eq_head?, tagsNamed_of_filter rfl own, ← tag?_eq_head?]

theorem tag?_ownClass (own : kind.ownsClassTag name = true) (c : Source.Class) :
    (kind.ownClass c).tag? name = c.tag? name := by
  rw [tag?_eq_head?, tagsNamed_of_filter rfl own, ← tag?_eq_head?]

theorem tagValue?_ownMember (own : kind.ownsMemberTag name = true) (m : Member) :
    (kind.ownMember m).tagValue? name = m.tagValue? name := by
  rw [Metadata.tagValue?, tag?_ownMember own, Metadata.tagValue?]

theorem tagValue?_ownClass (own : kind.ownsClassTag name = true) (c : Source.Class) :
    (kind.ownClass c).tagValue? name = c.tagValue? name := by
  rw [Metadata.tagValue?, tag?_ownClass own, Metadata.tagValue?]

theorem tagComments_ownMember (own : kind.ownsMemberTag name = true) (m : Member) :
    (kind.ownMember m).tagComments name = m.tagComments name := by
  rw [Metadata.tagComments, tagsNamed_of_filter rfl own, Metadata.tagComments]

end Tags

/-- What tags say about parameters and faults is owned by every strategy. -/
theorem ownsMemberTag_of_mem {tag : String} (member : tag ∈ [paramTag, throwsTag])
    (kind : StrategyKind) : kind.ownsMemberTag tag = true := by
  revert tag
  cases kind <;> decide

/-! ## Members -/

theorem fillInput_ownMember (kind : StrategyKind) (m : Member) (input : Source.Parameter)
    (node : Document.Parameter) :
    fillInput (kind.ownMember m) input node = fillInput m input node := by
  have own : kind.ownsMemberTag paramTag = true := ownsMemberTag_of_mem (by decide) kind
  rw [fillInput, tagComments_ownMember own, fillInput]

theorem fillFault_ownMember (kind : StrategyKind) (m : Member) (type : TypeName) (node : Fault) :
    fillFault (kind.ownMember m) type node = fillFault m type node := by
  have own : kind.ownsMemberTag throwsTag = true := ownsMemberTag_of_mem (by decide) kind
  rw [fillFault, tagComments_ownMember own, fillFault]

theorem tagWarnings_own (kind : StrategyKind) (c : Source.Class) (m : Member) :
    tagWarnings (kind.ownClass c) (kind.ownMember m) = tagWarnings c m := by
  apply List.flatMap_congr
  intro tag member
  rw [tagComments_ownMember (ownsMemberTag_of_mem member kind)]
  rfl

theorem operationMarker_ownMember (m : Member) :
    Annotated.operationMarker (ownMember .annotations m) = Annotated.operationMarker m := by
  rw [Annotated.operationMarker, annotation?_ownMember m (by decide), Annotated.operationMarker]

end StrategyKind

namespace Strategy

open StrategyKind

theorem fillOperation_own (s : Strategy) (c : Source.Class) (m : Member) (existing : List String)
    (node : Operation) :
    s.fillOperation (s.kind.ownClass c) (s.kind.ownMember m) existing node =
      s.fillOperation c m existing node := by
  have warned := s.kind.tagWarnings_own c m
  rcases s with ⟨kind, category⟩
  cases kind with
  | annotations =>
      simp only [fillOperation, Annotated.fillOperation, operationMarker_ownMember, warned]
      rfl
  | doclets =>
      simp (disch := decide) only [fillOperation, Tagged.fillOperation, tagValue?_ownMember, warned]
      rfl

theorem fillOutput?_ownMember (s : Strategy) (m : Member) (node : Document.Parameter) :
    s.fillOutput? (s.kind.ownMember m) node = s.fillOutput? m node := by
  rcases s with ⟨kind, category⟩
  cases kind with
  | annotations =>
      simp (disch := decide) only [fillOutput?, Annotated.fillOutput?, operationMarker_ownMember,
        tag?_ownMember]
      rfl
  | doclets =>
      simp (disch := decide) only [fillOutput?, Tagged.fillOutput?, tagValue?_ownMember,
        tag?_ownMember]
      rfl

theorem operation_own (s : Strategy) (c : Source.Class) (existing : List String) (m : Member) :
    s.operation (s.kind.ownClass c) existing (s.kind.ownMember m) = s.operation c existing m := by
  simp only [operation, fillOperation_own, fillInput_ownMember, fillFault_ownMember,
    fillOutput?_ownMember]
  rfl

theorem operations_own (s : Strategy) (c : Source.Class) (existing : List String)
    (members : List Member) :
    s.operations (s.kind.ownClass c) existing (members.map s.kind.ownMember) =
      s.operations c existing members := by
  induction members generalizing existing with
  | nil => rfl
  | cons m rest ih => simp only [List.map_cons, operations, operation_own, ih]

theorem isFactory_ownMember (s : Strategy) (m : Member) :
    s.isFactory (s.kind.ownMember m) = s.isFactory m := by
  rcases s with ⟨kind, category⟩
  cases kind with
  | annotations =>
      simp (disch := decide) only [isFactory, Metadata.isAnnotatedWith, annotation?_ownMember]
  | doclets => simp (disch := decide) only [isFactory, Metadata.hasTag, tag?_ownMember]

theorem isOperation_ownMember (s : Strategy) (m : Member) :
    s.isOperation (s.kind.ownMember m) = s.isOperation m := by
  rw [isOperation_eq, isFactory_ownMember, isOperation_eq]
  rfl

theorem fillConfigParam?_ownMember (s : Strategy) (m : Member) (node : ConfigParam) :
    s.fillConfigParam? (s.kind.ownMember m) node = s.fillConfigParam? m node := by
  rcases s with ⟨kind, category⟩
  cases kind with
  | annotations =>
      simp (disch := decide) only [fillConfigParam?, Annotated.fillConfigParam?,
        annotation?_ownMember]
      rfl
  | doclets =>
      simp (disch := decide) only [fillConfigParam?, Tagged.fillConfigParam?, Metadata.hasTag,
        tagValue?_ownMember, tag?_ownMember]
      rfl

/-! ## Classes -/

/-- Members are chosen by what a strategy owns of them. -/
theorem filter_ownClass {kind : StrategyKind} {chosen : Member → Bool}
    (owned : ∀ m, chosen (kind.ownMember m) = chosen m) (c : Source.Class) :
    (kind.ownClass c).members.filter chosen = (c.members.filter chosen).map kind.ownMember := by
  rw [ownClass, List.filter_map]
  congr 2
  funext m
  exact owned m

theorem factoryMethod_ownClass (s : Strategy) (c : Source.Class) :
    factoryMethod (s.kind.ownClass c) (s.factoryMembers (s.kind.ownClass c)) =
      factoryMethod c (s.factoryMembers c) := by
  rw [factoryMembers, filter_ownClass s.isFactory_ownMember, factoryMembers]
  cases c.members.filter s.isFactory with
  | nil => rfl
  | cons factory others =>
      have violation : factoryViolation? (s.kind.ownMember factory) = factoryViolation? factory :=
        rfl
      simp only [List.map_cons, factoryMethod, violation, List.map_map]
      rfl

theorem serviceMarker_ownClass (c : Source.Class) :
    Annotated.serviceMarker (ownClass .annotations c) = Annotated.serviceMarker c := by
  rw [Annotated.serviceMarker, annotation?_ownClass c (by decide), Annotated.serviceMarker]

theorem isService_ownClass (s : Strategy) (c : Source.Class) :
    s.isService (s.kind.ownClass c) = s.isService c := by
  rcases s with ⟨kind, category⟩
  cases kind with
  | annotations =>
      simp (disch := decide) only [isService, Annotated.isService, Metadata.isAnnotatedWith,
        annotation?_ownClass]
      rfl
  | doclets => rfl

theorem fillService_ownClass (s : Strategy) (c : Source.Class) (node : Service) :
    s.fillService (s.kind.ownClass c) node = s.fillService c node := by
  have identity : fillIdentity (s.kind.ownClass c) node = fillIdentity c node := rfl
  have factory := s.factoryMethod_ownClass c
  rcases s with ⟨kind, category⟩
  cases kind with
  | annotations =>
      have requests (given : Option String) :
          Annotated.requestStrategy (ownClass .annotations c) given =
            Annotated.requestStrategy c given := by
        have named : (ownClass .annotations c).qualifiedName = c.qualifiedName := rfl
        cases given with
        | none => rfl
        | some text => simp only [Annotated.requestStrategy, named]
      simp only [factoryMembers_annotations] at factory
      simp only [fillService, Annotated.fillService, serviceMarker_ownClass, identity, factory,
        requests]
  | doclets =>
      simp only [factoryMembers_doclets] at factory
      simp (disch := decide) only [fillService, Tagged.fillService, tagValue?_ownClass, identity,
        factory]

theorem fillAutoDeploy?_ownClass (s : Strategy) (component : Component) (c : Source.Class)
    (node : AutoDeploy) :
    s.fillAutoDeploy? component (s.kind.ownClass c) node =
      s.fillAutoDeploy? component c node := by
  rcases s with ⟨kind, category⟩
  cases kind with
  | annotations =>
      simp only [fillAutoDeploy?, Annotated.fillAutoDeploy?, serviceMarker_ownClass]
      rfl
  | doclets =>
      simp (disch := decide) only [fillAutoDeploy?, Tagged.fillAutoDeploy, Tagged.version,
        tag?_ownClass]
      rfl

theorem service_ownClass (s : Strategy) (component : Component) (c : Source.Class) :
    s.service component (s.kind.ownClass c) = s.service component c := by
  have isConfigParam (m : Member) : s.isConfigParam (s.kind.ownMember m) = s.isConfigParam m := rfl
  simp only [service, fillService_ownClass, fillAutoDeploy?_ownClass,
    filter_ownClass s.isOperation_ownMember, operations_own, filter_ownClass isConfigParam,
    List.filterMap_map, Function.comp_def, fillConfigParam?_ownMember]

/-- A class contributes what it would contribute without the metadata of others. -/
theorem contribution_ownClass (s : Strategy) (component : Component) (c : Source.Class) :
    s.contribution component (s.kind.ownClass c) = s.contribution component c := by
  simp only [contribution, isService_ownClass, service_ownClass]

/-! ## Trees -/

/-- The name of the class that implements an interface is found without the metadata of others. -/
theorem implementingName_eq (kind : StrategyKind) (tree : Tree) (type : String)
    (known : Option String) :
    implementingName tree type known =
      (((tree.classes.map kind.ownClass).find? (·.implementsType type)).map
        (·.qualifiedName)).or known := by
  rw [implementingName, Tree.implementing?, List.find?_map, Option.map_map]
  rfl

/-- Metadata that a strategy does not own leaves no trace: two trees that differ in nothing else
lead to the same report or to the same failure, whatever the earlier document and the category
are. -/
theorem generate_eq_of_ownClass {a b : Tree} (s : Strategy)
    (same : a.classes.map s.kind.ownClass = b.classes.map s.kind.ownClass)
    (prior : Option Component) : s.generate prior a = s.generate prior b := by
  have framed : frame prior a = frame prior b := by
    simp only [frame, fillComponent, implementingName_eq s.kind, same]
  have contributions (tree : Tree) : tree.classes.mapM (s.contribution (frame prior b)) =
      (tree.classes.map s.kind.ownClass).mapM (s.contribution (frame prior b)) := by
    simp only [List.mapM_map, Function.comp_def, contribution_ownClass]
  rw [generate_eq_map, generate_eq_map, framed, contributions a, same, ← contributions b]

end Strategy

/-! ## A class with metadata for several readers -/

/-- A service with one operation and nothing but metadata that annotations own. -/
def plainOrders : Source.Class where
  qualifiedName := "shop.Orders"
  annotations := [("Service", [("categoryId", .text "sales")])]
  members :=
    [{ name := "place"
       parameters := [{ name := "order", type := { name := "shop.Order" } }]
       tags := [{ name := "param", value := "order what is ordered" }] }]

/-- The same service with metadata of others, some of it in front of its own. -/
def labelledOrders : Source.Class where
  qualifiedName := "shop.Orders"
  tags := [{ name := "smallIcon", value := "orders.png" }, { name := "major", value := "two" }]
  annotations :=
    [("Deprecated", []), ("Service", [("categoryId", .text "sales")]),
      ("other.Service", [("categoryId", .text "storage")])]
  members :=
    [{ name := "place"
       parameters := [{ name := "order", type := { name := "shop.Order" } }]
       tags :=
         [{ name := "operationName", value := "submit" },
           { name := "param", value := "order what is ordered" },
           { name := "factoryMethod" }]
       annotations := [("other.Operation", [("name", .text "submit")])] }]

theorem generate_eq_of_ownClass_labelledOrders :
    [labelledOrders].map (StrategyKind.ownClass .annotations) =
        [plainOrders].map (StrategyKind.ownClass .annotations) ∧
      ({ category := some "main" } : Strategy).generate (some { id := some "shop" })
          { classes := [labelledOrders], ordered := by simp } =
        ({ category := some "main" } : Strategy).generate (some { id := some "shop" })
          { classes := [plainOrders], ordered := by simp } := by
  have same : [labelledOrders].map (StrategyKind.ownClass .annotations) =
      [plainOrders].map (StrategyKind.ownClass .annotations) := by
    rfl
  exact ⟨same, Strategy.generate_eq_of_ownClass { category := some "main" } same _⟩

end ComponentGen.Extraction

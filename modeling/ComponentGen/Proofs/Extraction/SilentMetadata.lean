import ComponentGen.Proofs.Extraction.Failures

/-!
# Where metadata says nothing

The two strategies differ in the metadata they read.  Where that metadata says nothing, they make
the same document or fail for the same reason, except for the comments on operations, on what
operations return and on configuration parameters: these one strategy takes as hints as a whole,
while the other one takes their first sentences as hints and the whole as descriptions.
-/

namespace ComponentGen

/-! ## Documents without comments -/

namespace Document

/-- A parameter without its comments. -/
def Parameter.withoutComments (p : Parameter) : Parameter :=
  { p with hint := none, description := none }

/-- An operation without the comments on itself and on its outputs. -/
def Operation.withoutComments (o : Operation) : Operation :=
  { o with
    hint := none
    description := none
    outputs := o.outputs.map Parameter.withoutComments }

/-- A configuration parameter without its comments. -/
def ConfigParam.withoutComments (p : ConfigParam) : ConfigParam :=
  { p with hint := none, description := none }

/-- A service without the comments on its operations and configuration parameters. -/
def Service.withoutComments (s : Service) : Service :=
  { s with
    operations := s.operations.map Operation.withoutComments
    configParams := s.configParams.map ConfigParam.withoutComments }

/-- A component without the comments on operations and configuration parameters. -/
def Component.withoutComments (c : Component) : Component :=
  { c with services := c.services.map Service.withoutComments }

end Document

namespace Extraction

open Document Outcome Source

/-- A report without the comments on operations and configuration parameters. -/
def Report.withoutComments (report : Report) : Report :=
  { report with component := report.component.withoutComments }

/-- Changes a value and keeps the warnings. -/
def Noted.map {α β : Type} (f : α → β) (noted : Noted α) : Noted β where
  value := f noted.value
  warnings := noted.warnings

namespace Strategy

/-- A report is without comments if what the classes contributed is. -/
theorem withoutComments_reportOf (component : Component)
    (contributions : List (Option (Noted Service))) :
    (reportOf component contributions).withoutComments =
      reportOf component (contributions.map (·.map (Noted.map Service.withoutComments))) := by
  have given : (contributions.map (·.map (Noted.map Service.withoutComments))).filterMap id =
      (contributions.filterMap id).map (Noted.map Service.withoutComments) := by
    rw [List.filterMap_map, List.map_filterMap]
    rfl
  simp only [reportOf, given, Report.withoutComments, Component.withoutComments, List.map_map,
    List.flatMap_map]
  rfl

end Strategy

/-! ## Silent metadata -/

/-- A member whose metadata says nothing that only one of the strategies would hear. -/
structure IsSilentMember (m : Member) : Prop where
  annotations : ∀ name ∈ ["Operation", "ConfigParam", "FactoryMethod"], m.annotation? name = none
  tags : ∀ tag ∈ m.tags, tag.name ∉ ["factoryMethod", "operationName", "smallIcon", "largeIcon",
    "outputParamName", "required", "default"]

/-- A class that can be a service and is annotated as one, where neither the annotation nor other
metadata says anything that only one of the strategies would hear. -/
structure IsSilent (c : Source.Class) : Prop where
  eligible : IsEligible c
  marked : c.annotation? "Service" = some []
  tags : ∀ tag ∈ c.tags, tag.name ∉ ["smallIcon", "largeIcon", "major", "minor"]
  members : ∀ m ∈ c.members, IsSilentMember m

/-- A tag is not found if no tag has a name of the list that its name is on. -/
theorem tag?_eq_none_of_mem {m : Metadata} {name : String} {listed : List String}
    (absent : ∀ tag ∈ m.tags, tag.name ∉ listed) (member : name ∈ listed) :
    m.tag? name = none := by
  rw [Metadata.tag?, List.find?_eq_none]
  intro tag given named
  rw [beq_iff_eq] at named
  exact absent tag given (named ▸ member)

/-! ## Members -/

theorem defaultValue_of_fillProperty? {m : Member} {node named : ConfigParam}
    (filled : fillProperty? m node = some named) : named.defaultValue = node.defaultValue := by
  unfold fillProperty? ConfigParam.forProperty at filled
  grind

section Members

variable {m : Member} (silent : IsSilentMember m)
include silent

theorem IsSilentMember.tag?_eq_none {name : String}
    (listed : name ∈ ["factoryMethod", "operationName", "smallIcon", "largeIcon",
      "outputParamName", "required", "default"]) : m.tag? name = none :=
  tag?_eq_none_of_mem silent.tags listed

theorem IsSilentMember.operationMarker_eq : Annotated.operationMarker m = {} := by
  rw [Annotated.operationMarker, operationAnnotation, silent.annotations _ (by decide)]
  rfl

theorem IsSilentMember.isFactory_eq_false (s : Strategy) : s.isFactory m = false := by
  rcases s with ⟨kind, category⟩
  cases kind with
  | annotations =>
      have unmarked := silent.annotations factoryAnnotation (by decide)
      simp [Strategy.isFactory, Metadata.isAnnotatedWith, unmarked]
  | doclets =>
      have untagged := silent.tag?_eq_none (by decide : Tagged.factoryTag ∈ _)
      simp [Strategy.isFactory, Metadata.hasTag, untagged]

theorem IsSilentMember.isOperation_eq (s : Strategy) : s.isOperation m = hasOperationShape m := by
  rw [Strategy.isOperation_eq, silent.isFactory_eq_false, Bool.not_false, Bool.and_true]

theorem IsSilentMember.fillOutput?_eq (category : Option String) (node : Document.Parameter) :
    (Strategy.fillOutput? { kind := .annotations, category } m node).map
        Document.Parameter.withoutComments =
      (Strategy.fillOutput? { kind := .doclets, category } m node).map
        Document.Parameter.withoutComments := by
  have unnamed := silent.tag?_eq_none (by decide : "outputParamName" ∈ _)
  simp only [Strategy.fillOutput?, Annotated.fillOutput?, Tagged.fillOutput?,
    silent.operationMarker_eq, Metadata.tagValue?, unnamed, Option.map_map]
  congr 1
  funext type
  dsimp only [Function.comp_apply]
  split <;> rfl

/-- What is taken from a property leaves the rest of a configuration parameter as it is. -/
theorem IsSilentMember.fillConfigParam?_eq (category : Option String) :
    (Strategy.fillConfigParam? { kind := .annotations, category } m {}).map
        ConfigParam.withoutComments =
      (Strategy.fillConfigParam? { kind := .doclets, category } m {}).map
        ConfigParam.withoutComments := by
  have unmarked := silent.annotations configParamAnnotation (by decide)
  have optional := silent.tag?_eq_none (by decide : "required" ∈ _)
  have noDefault := silent.tag?_eq_none (by decide : "default" ∈ _)
  simp only [Strategy.fillConfigParam?, Annotated.fillConfigParam?, Tagged.fillConfigParam?,
    unmarked, Metadata.hasTag, Metadata.tagValue?, optional, noDefault, Option.map_map]
  cases filled : fillProperty? m {} with
  | none => rfl
  | some named =>
      have noDefault := defaultValue_of_fillProperty? filled
      simp [ConfigParam.withoutComments, noDefault]

/-- An operation gets the same name, or fails to get one for the same reason. -/
theorem IsSilentMember.operation_eq (c : Source.Class) (existing : List String)
    (category : Option String) :
    (Strategy.operation { kind := .annotations, category } c existing m).map
        (Noted.map Operation.withoutComments) =
      (Strategy.operation { kind := .doclets, category } c existing m).map
        (Noted.map Operation.withoutComments) := by
  have unnamed := silent.tag?_eq_none (by decide : "operationName" ∈ _)
  have noSmallIcon := silent.tag?_eq_none (by decide : Tagged.smallIconTag ∈ _)
  have noLargeIcon := silent.tag?_eq_none (by decide : Tagged.largeIconTag ∈ _)
  have outputs := congrArg Option.toList (silent.fillOutput?_eq category {})
  simp only [Option.toList_map] at outputs
  simp only [Strategy.operation, Strategy.fillOperation, Annotated.fillOperation,
    Tagged.fillOperation, silent.operationMarker_eq, Metadata.tagValue?, unnamed, noSmallIcon,
    noLargeIcon, Option.bind_none]
  cases nameOperation existing c.qualifiedName m none with
  | error failure => rfl
  | ok named =>
      simp [bind, Except.bind, pure, Except.pure, Except.map, Noted.map,
        Operation.withoutComments, outputs]

end Members

theorem operations_eq_of_isSilentMember {members : List Member}
    (silent : ∀ m ∈ members, IsSilentMember m) (c : Source.Class) (existing : List String)
    (category : Option String) :
    (Strategy.operations { kind := .annotations, category } c existing members).map
        (·.map (Noted.map Operation.withoutComments)) =
      (Strategy.operations { kind := .doclets, category } c existing members).map
        (·.map (Noted.map Operation.withoutComments)) := by
  induction members generalizing existing with
  | nil => rfl
  | cons m rest ih =>
      rw [List.forall_mem_cons] at silent
      apply map_bind_congr (silent.1.operation_eq c existing category)
      intro a b first
      -- The later operations see of the first one only its name, which is no comment.
      have named : (Noted.map Operation.withoutComments a).value.name =
          (Noted.map Operation.withoutComments b).value.name := by
        rw [first]
      change a.value.name = b.value.name at named
      rw [named]
      apply map_bind_congr (ih silent.2 (existing ++ [b.value.name]))
      intro as bs others
      exact congrArg Except.ok (congrArg₂ List.cons first others)

/-! ## Classes -/

section Classes

variable {c : Source.Class} (silent : IsSilent c)
include silent

theorem IsSilent.tag?_eq_none {name : String}
    (listed : name ∈ ["smallIcon", "largeIcon", "major", "minor"]) : c.tag? name = none :=
  tag?_eq_none_of_mem silent.tags listed

theorem IsSilent.isService_eq (s : Strategy) : s.isService c = .ok true := by
  have eligible := ineligibility?_eq_none_iff.mpr silent.eligible
  have marked : c.annotation? serviceAnnotation = some [] := silent.marked
  rcases s with ⟨kind, category⟩
  cases kind with
  | annotations =>
      simp [Strategy.isService, Annotated.isService, Metadata.isAnnotatedWith, marked, eligible]
  | doclets => simp [Strategy.isService, Tagged.isService, eligible]

theorem IsSilent.serviceMarker_eq : Annotated.serviceMarker c = .ofValues [] := by
  have marked : c.annotation? serviceAnnotation = some [] := silent.marked
  rw [Annotated.serviceMarker, marked, Option.getD_some]

theorem IsSilent.factoryMembers_eq_nil (s : Strategy) : s.factoryMembers c = [] := by
  rw [Strategy.factoryMembers, List.filter_eq_nil_iff]
  intro m member
  rw [(silent.members m member).isFactory_eq_false, Bool.not_eq_true]

theorem IsSilent.fillService_eq (category : Option String) :
    Strategy.fillService { kind := .annotations, category } c {} =
      Strategy.fillService { kind := .doclets, category } c {} := by
  have noSmallIcon := silent.tag?_eq_none (by decide : Tagged.smallIconTag ∈ _)
  have noLargeIcon := silent.tag?_eq_none (by decide : Tagged.largeIconTag ∈ _)
  have unmarked := silent.factoryMembers_eq_nil { kind := .annotations, category }
  have untagged := silent.factoryMembers_eq_nil { kind := .doclets, category }
  rw [Strategy.factoryMembers_annotations] at unmarked
  rw [Strategy.factoryMembers_doclets] at untagged
  simp only [Strategy.fillService, Annotated.fillService, Tagged.fillService, unmarked, untagged,
    silent.serviceMarker_eq, Metadata.tagValue?, noSmallIcon, noLargeIcon]
  rfl

theorem IsSilent.fillAutoDeploy?_eq (category : Option String) (component : Component)
    (node : AutoDeploy) :
    Strategy.fillAutoDeploy? { kind := .annotations, category } component c node =
      Strategy.fillAutoDeploy? { kind := .doclets, category } component c node := by
  have noMajor := silent.tag?_eq_none (by decide : "major" ∈ _)
  have noMinor := silent.tag?_eq_none (by decide : "minor" ∈ _)
  simp only [Strategy.fillAutoDeploy?, Annotated.fillAutoDeploy?, Tagged.fillAutoDeploy,
    Tagged.version, silent.serviceMarker_eq, noMajor, noMinor]
  rfl

theorem IsSilent.operations_eq (category : Option String) :
    (Strategy.operations { kind := .annotations, category } c []
        (Strategy.operationMembers { kind := .annotations, category } c)).map
        (·.map (Noted.map Operation.withoutComments)) =
      (Strategy.operations { kind := .doclets, category } c []
        (Strategy.operationMembers { kind := .doclets, category } c)).map
        (·.map (Noted.map Operation.withoutComments)) := by
  have chosen (s : Strategy) : s.operationMembers c = c.members.filter hasOperationShape :=
    List.filter_congr fun m member => (silent.members m member).isOperation_eq s
  rw [chosen, chosen]
  apply operations_eq_of_isSilentMember
  intro m member
  exact silent.members m (List.mem_of_mem_filter member)

theorem IsSilent.configParams_eq (category : Option String) :
    ((c.members.filter (Strategy.isConfigParam { kind := .annotations, category })).filterMap
        (Strategy.fillConfigParam? { kind := .annotations, category } · {})).map
        ConfigParam.withoutComments =
      ((c.members.filter (Strategy.isConfigParam { kind := .doclets, category })).filterMap
        (Strategy.fillConfigParam? { kind := .doclets, category } · {})).map
        ConfigParam.withoutComments := by
  rw [List.map_filterMap, List.map_filterMap]
  apply List.filterMap_congr
  intro m member
  exact (silent.members m (List.mem_of_mem_filter member)).fillConfigParam?_eq category

/-- Services are the same up to comments if their operations are. -/
theorem IsSilent.assembled_eq (category : Option String) (component : Component)
    (described : Noted Service) {marked tagged : List (Noted Operation)}
    (same : marked.map (Noted.map Operation.withoutComments) =
      tagged.map (Noted.map Operation.withoutComments)) :
    (Strategy.assembled { kind := .annotations, category } component c described marked).map
        Service.withoutComments =
      (Strategy.assembled { kind := .doclets, category } component c described tagged).map
        Service.withoutComments := by
  have operations : (marked.map (·.value)).map Operation.withoutComments =
      (tagged.map (·.value)).map Operation.withoutComments := by
    simpa [Noted.map, Function.comp_def] using congrArg (List.map (·.value)) same
  have warnings : marked.flatMap (·.warnings) = tagged.flatMap (·.warnings) := by
    simpa [Noted.map, List.flatMap_map] using congrArg (List.flatMap (·.warnings)) same
  simp only [Strategy.assembled, silent.fillAutoDeploy?_eq category component, Noted.map,
    Service.withoutComments, operations, warnings, silent.configParams_eq category]

theorem IsSilent.service_eq (category : Option String) (component : Component) :
    (Strategy.service { kind := .annotations, category } component c).map
        (Noted.map Service.withoutComments) =
      (Strategy.service { kind := .doclets, category } component c).map
        (Noted.map Service.withoutComments) := by
  have described : (Strategy.fillService { kind := .annotations, category } c {}).map id =
      (Strategy.fillService { kind := .doclets, category } c {}).map id := by
    rw [silent.fillService_eq]
  apply map_bind_congr described
  rintro node _ rfl
  apply map_bind_congr (silent.operations_eq category)
  intro marked tagged same
  exact congrArg Except.ok (silent.assembled_eq category component node same)

theorem IsSilent.contribution_eq (category : Option String) (component : Component) :
    (Strategy.contribution { kind := .annotations, category } component c).map
        (·.map (Noted.map Service.withoutComments)) =
      (Strategy.contribution { kind := .doclets, category } component c).map
        (·.map (Noted.map Service.withoutComments)) := by
  simp only [Strategy.contribution, silent.isService_eq]
  apply map_bind_congr (silent.service_eq category component)
  intro a b same
  exact congrArg (fun noted => Except.ok (some noted)) same

end Classes

/-! ## Runs -/

/-- Where metadata says nothing, both strategies fail with the same failure, or both make a
document, with the same warnings and the same component but for its comments on operations, on
outputs and on configuration parameters. -/
theorem Strategy.generate_eq_of_isSilent {tree : Tree} (silent : ∀ c ∈ tree.classes, IsSilent c)
    (prior : Option Component) (category : Option String) :
    (Strategy.generate { kind := .annotations, category } prior tree).map
        Report.withoutComments =
      (Strategy.generate { kind := .doclets, category } prior tree).map
        Report.withoutComments := by
  have contributions := map_mapM_congr fun c member =>
    (silent c member).contribution_eq category (frame prior tree)
  -- Taking comments off a report is taking them off what the classes contributed.
  have opened (results : Except Failure (List (Option (Noted Service)))) :
      (results.map (reportOf (frame prior tree))).map Report.withoutComments =
        (results.map (·.map (·.map (Noted.map Service.withoutComments)))).map
          (reportOf (frame prior tree)) := by
    cases results with
    | error failure => rfl
    | ok contributions =>
        exact congrArg Except.ok (withoutComments_reportOf (frame prior tree) contributions)
  rw [generate_eq_map, generate_eq_map, opened, opened, contributions]

/-! ## A class that the strategies describe alike -/

/-- A service with a setter, an operation that has comments on what it returns and a tag that
comments on nothing, and a tag for other readers. -/
def commentedArchive : Source.Class where
  qualifiedName := "shop.Archive"
  doc := some "Keeps orders. Forever."
  annotations := [("Service", [])]
  tags := [{ name := "author", value := "the archivist" }]
  members :=
    [{ name := "find"
       doc := some "Finds an order. Slowly."
       returnType := some { name := "shop.Order" }
       parameters := [{ name := "key", type := { name := "int" } }]
       tags :=
         [{ name := "param", value := "key" },
           { name := "return", value := "An order. Or none." }] },
      { name := "setShelf"
        doc := some "The shelf. In metres."
        parameters := [{ name := "shelf", type := { name := "int" } }]
        returnType := none }]

theorem isSilent_commentedArchive : IsSilent commentedArchive where
  eligible := ineligibility?_eq_none_iff.mp (by decide +kernel)
  marked := by rfl
  tags := by decide
  members := by
    intro m member
    rw [commentedArchive, List.mem_pair] at member
    rcases member with rfl | rfl
    · exact ⟨by decide, by decide⟩
    · exact ⟨by decide, by decide⟩

/-- The tree of that class. -/
def commentedTree : Tree where
  classes := [commentedArchive]
  ordered := by simp

theorem generate_eq_of_isSilent_commentedTree :
    (∀ c ∈ commentedTree.classes, IsSilent c) ∧
      (Strategy.generate { kind := .annotations, category := some "main" } none
          commentedTree).map Report.withoutComments =
        (Strategy.generate { kind := .doclets, category := some "main" } none
          commentedTree).map Report.withoutComments := by
  have silent : ∀ c ∈ commentedTree.classes, IsSilent c :=
    List.forall_mem_singleton.mpr isSilent_commentedArchive
  exact ⟨silent, Strategy.generate_eq_of_isSilent silent none (some "main")⟩

end Extraction

end ComponentGen

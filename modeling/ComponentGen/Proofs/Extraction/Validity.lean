import ComponentGen.Proofs.Document.Rules
import ComponentGen.Proofs.Extraction.OperationNames
import ComponentGen.Proofs.Extraction.Runs
import ComponentGen.Proofs.Naming.Title

/-!
# Validity of the documents that are made

Names and titles come from the same identifiers, so what has a name has a title.  Names of
operations are distinct and those of configuration parameters are cut when they are made.  What
returns a value or sets a property is never without a title.  So a document that is made is valid
unless a name in it is missing.
-/

namespace ComponentGen.Extraction

open Document Naming Outcome Source Text

/-! ## Operations -/

/-- An operation in which titles are those of the names, and what is returned has one in any
case. -/
structure IsTitled (o : Operation) : Prop where
  own : o.title = title o.name
  inputs : ∀ p ∈ o.inputs, p.title = title p.name
  outputs : ∀ p ∈ o.outputs, isBlank p.title = false
  faults : ∀ f ∈ o.faults, f.title = title f.name

theorem isBlank_textValue? {values : AnnotationValues} {key s : String}
    (given : textValue? values key = some s) : isBlank s = false := by
  rw [textValue?] at given
  split at given
  · exact isBlank_nonBlank? given
  · cases given

theorem isBlank_tagValue? {m : Metadata} {name s : String} (given : m.tagValue? name = some s) :
    isBlank s = false := by
  obtain ⟨tag, _, left⟩ := Option.bind_eq_some_iff.mp given
  exact isBlank_nonBlank? left

/-- A name that is given, or else the name for outputs without one, is not blank. -/
theorem isBlank_outputName {given : Option String}
    (each : ∀ s, given = some s → isBlank s = false) :
    isBlank (given.getD defaultOutputName) = false := by
  cases given with
  | none => decide
  | some s => exact each s rfl

theorem isBlank_markedOutputName {m : Member} {s : String}
    (given : (Annotated.operationMarker m).outputName = some s) : isBlank s = false := by
  rw [Annotated.operationMarker] at given
  cases marked : m.annotation? operationAnnotation with
  | none => simp [marked] at given
  | some values =>
      rw [marked] at given
      exact isBlank_textValue? given

theorem isBlank_fillOutput? {s : Strategy} {m : Member} {p : Document.Parameter}
    (filled : s.fillOutput? m {} = some p) : isBlank p.title = false := by
  rcases s with ⟨kind, category⟩
  cases kind with
  | annotations =>
      obtain ⟨type, _, rfl⟩ := Option.map_eq_some_iff.mp filled
      have named : isBlank ((Annotated.operationMarker m).outputName.getD defaultOutputName) =
          false := isBlank_outputName fun s => isBlank_markedOutputName
      dsimp only
      split <;> exact named
  | doclets =>
      obtain ⟨type, _, rfl⟩ := Option.map_eq_some_iff.mp filled
      exact isBlank_outputName fun s => isBlank_tagValue?

theorem title_fillInput (m : Member) (input : Source.Parameter) (p : Document.Parameter) :
    (fillInput m input p).title = title (fillInput m input p).name := by
  simp only [fillInput]

theorem title_fillFault (m : Member) (type : TypeName) (f : Fault) :
    (fillFault m type f).title = title (fillFault m type f).name := by
  simp only [fillFault]

/-- Both strategies give an operation the title of its name. -/
theorem title_operation {s : Strategy} {c : Source.Class} {existing : List String} {m : Member}
    {o : Noted Operation} (step : s.operation c existing m = .ok o) :
    o.value.title = title o.value.name := by
  have naming := s.operation_naming c existing m
  rw [step] at naming
  have titled : (operationNaming o).title = title (operationNaming o).name := by
    rw [(nameOperation_eq_ok_iff.mp naming.symm).2]
  exact titled

theorem isTitled_operation {s : Strategy} {c : Source.Class} {existing : List String} {m : Member}
    {o : Noted Operation} (step : s.operation c existing m = .ok o) : IsTitled o.value := by
  -- The title of the operation itself was settled with its name; only the other parts need the
  -- operation to be taken apart.
  have parts := map_eq_ok_iff.mp step
  constructor
  case own => exact title_operation step
  case inputs =>
    obtain ⟨filled, _, rfl⟩ := parts
    intro p member
    obtain ⟨input, _, rfl⟩ := List.mem_map.mp member
    exact title_fillInput m input {}
  case outputs =>
    obtain ⟨filled, _, rfl⟩ := parts
    intro p member
    exact isBlank_fillOutput? (Option.mem_toList.mp member)
  case faults =>
    obtain ⟨filled, _, rfl⟩ := parts
    intro f member
    obtain ⟨type, _, rfl⟩ := List.mem_map.mp member
    exact title_fillFault m type {}

theorem isTitled_operations {s : Strategy} {c : Source.Class} {existing : List String}
    {members : List Member} {operations : List (Noted Operation)}
    (run : s.operations c existing members = .ok operations) :
    ∀ o ∈ operations, IsTitled o.value := by
  have each := Strategy.forall₂_operation run
  intro o member
  rcases exists_forall₂_iff.mp ⟨members, each.flip⟩ o member with ⟨m, earlier, step⟩
  exact isTitled_operation step

/-- Operations are named apart. -/
theorem nodup_operationNames {s : Strategy} {c : Source.Class} {members : List Member}
    {operations : List (Noted Operation)} (run : s.operations c [] members = .ok operations) :
    (operations.map (·.value.name)).Nodup := by
  have naming := s.operations_naming c [] members
  rw [run] at naming
  have distinct := nodup_append_givenNames List.nodup_nil naming.symm
  rw [List.nil_append, givenNames, List.map_map] at distinct
  exact distinct

/-! ## Configuration parameters -/

/-- A text that starts with something other than white space. -/
def StartsVisibly (s : String) : Prop := ∃ c rest, s.toList = c :: rest ∧ isSpace c = false

theorem StartsVisibly.isBlank_eq {s : String} (visible : StartsVisibly s) : isBlank s = false := by
  obtain ⟨c, rest, split, kept⟩ := visible
  rw [isBlank, split, List.all_cons, kept, Bool.false_and]

theorem StartsVisibly.take {s : String} (visible : StartsVisibly s) {n : Nat} (positive : 0 < n) :
    StartsVisibly (String.ofList (s.toList.take n)) := by
  obtain ⟨c, rest, split, kept⟩ := visible
  cases n with
  | zero => cases positive
  | succ n => exact ⟨c, rest.take n, by rw [String.toList_ofList, split, List.take_succ_cons], kept⟩

/-- A text that starts with a capital of ASCII. -/
def StartsCapital (s : String) : Prop := ∃ c rest, s.toList = c :: rest ∧ c.isUpper = true

theorem isSpace_of_isUpper {c : Char} (capital : c.isUpper = true) : isSpace c = false := by
  have range := toNat_of_isUpper capital
  rw [isSpace_eq_false_iff, spaceCodes]
  simp only [List.mem_cons, List.not_mem_nil, or_false]
  omega

/-- A capital of ASCII becomes one character that can be seen. -/
theorem lowerCase_of_isUpper {c : Char} (capital : c.isUpper = true) :
    lowerCase c = [c.toLower] ∧ isSpace c.toLower = false := by
  have kept := all_isSpace_lowerCase c
  rw [isSpace_of_isUpper capital] at kept
  rw [lowerCase, if_pos (isAscii_of_isUpper capital)] at kept ⊢
  exact ⟨rfl, by simpa using kept⟩

/-- A text that starts with two capitals keeps them; any other one gives up the capital that it
starts with. -/
theorem decapitalize_eq_or {s : String} {c : Char} {rest : List Char}
    (split : s.toList = c :: rest) (capital : c.isUpper = true) :
    decapitalize s = s ∨ decapitalize s = String.ofList (c.toLower :: rest) := by
  rw [decapitalize, split]
  cases rest with
  | nil =>
      dsimp only
      rw [(lowerCase_of_isUpper capital).1]
      exact .inr rfl
  | cons d rest =>
      dsimp only
      split
      case isTrue => exact .inl rfl
      case isFalse =>
        rw [(lowerCase_of_isUpper capital).1]
        exact .inr rfl

theorem StartsCapital.decapitalize {s : String} (capital : StartsCapital s) :
    StartsVisibly (decapitalize s) := by
  obtain ⟨c, rest, split, upper⟩ := capital
  rcases decapitalize_eq_or split upper with same | same
  · rw [same]
    exact ⟨c, rest, split, isSpace_of_isUpper upper⟩
  · rw [same]
    exact ⟨c.toLower, rest, String.toList_ofList, (lowerCase_of_isUpper upper).2⟩

/-- What follows the verb of a getter or setter goes on with a capital. -/
theorem afterVerb?_eq_some_iff {verb name subject : String} :
    afterVerb? verb name = some subject ↔ name = verb ++ subject ∧ StartsCapital subject := by
  rw [afterVerb?, Option.filter_eq_some_iff, afterPrefix?_eq_some_iff, StartsCapital]
  cases subject.toList with
  | nil => simp
  | cons c rest => simp

theorem startsVisibly_propertyName? {m : Member} {property : String}
    (named : m.propertyName? = some property) : StartsVisibly property := by
  have ofSubject {subject? : Option String} (capital : ∀ s, subject? = some s → StartsCapital s)
      (found : subject?.map decapitalize = some property) : StartsVisibly property := by
    obtain ⟨subject, given, rfl⟩ := Option.map_eq_some_iff.mp found
    exact (capital subject given).decapitalize
  rw [Member.propertyName?] at named
  split at named
  · apply ofSubject _ named
    intro s found
    rcases Option.or_eq_some_iff.mp found with found | ⟨_, found⟩
    · exact (afterVerb?_eq_some_iff.mp found).2
    · exact (afterVerb?_eq_some_iff.mp found).2
  · split at named
    · exact ofSubject (fun s found => (afterVerb?_eq_some_iff.mp found).2) named
    · cases named

/-- The name for a property is the property or the beginning of it. -/
theorem startsVisibly_forProperty {property : String} (visible : StartsVisibly property)
    (p : ConfigParam) : StartsVisibly (p.forProperty property).name := by
  rw [ConfigParam.forProperty]
  split
  · exact visible.take (by decide)
  · exact visible

theorem length_forProperty_le (property : String) (p : ConfigParam) :
    (p.forProperty property).name.length ≤ longestConfigName := by
  rw [ConfigParam.forProperty]
  split
  · rw [← String.length_toList, String.toList_ofList]
    exact List.length_take_le ..
  · dsimp only
    omega

theorem isPresentable_fillProperty? {m : Member} {p q : ConfigParam}
    (filled : fillProperty? m p = some q) : q.IsPresentable := by
  rw [fillProperty?] at filled
  split at filled
  case h_1 property type named _ =>
    cases filled
    have visible := startsVisibly_forProperty (startsVisibly_propertyName? named) p
    constructor
    case titled =>
      rw [isBlank_title]
      exact visible.isBlank_eq
    case short => exact length_forProperty_le property p
  case h_2 => cases filled

theorem isPresentable_fillConfigParam? {s : Strategy} {m : Member} {p : ConfigParam}
    (filled : s.fillConfigParam? m {} = some p) : p.IsPresentable := by
  rcases s with ⟨kind, category⟩
  cases kind with
  | annotations =>
      obtain ⟨named, found, rfl⟩ := Option.map_eq_some_iff.mp filled
      have presentable := isPresentable_fillProperty? found
      dsimp only
      split <;> exact ⟨presentable.titled, presentable.short⟩
  | doclets =>
      obtain ⟨named, found, rfl⟩ := Option.map_eq_some_iff.mp filled
      have presentable := isPresentable_fillProperty? found
      exact ⟨presentable.titled, presentable.short⟩

/-! ## Services -/

/-- What is certain about the service of a class. -/
structure IsAssembled (c : Source.Class) (service : Service) : Prop where
  name : service.name = c.simpleName
  implementationClass : service.implementationClass = c.qualifiedName
  distinct : service.operationNames.Nodup
  operations : ∀ o ∈ service.operations, IsTitled o
  configParams : ∀ p ∈ service.configParams, p.IsPresentable

theorem fillService_identity {s : Strategy} {c : Source.Class} {described : Noted Service}
    (describes : s.fillService c {} = .ok described) :
    described.value.name = c.simpleName ∧
      described.value.implementationClass = c.qualifiedName := by
  rcases s with ⟨kind, category⟩
  cases kind with
  | annotations =>
      obtain ⟨factory, _, done⟩ := bind_eq_ok_iff.mp describes
      cases pure_eq_ok_iff.mp done
      exact ⟨rfl, rfl⟩
  | doclets =>
      obtain ⟨factory, _, done⟩ := bind_eq_ok_iff.mp describes
      cases pure_eq_ok_iff.mp done
      exact ⟨rfl, rfl⟩

theorem isAssembled_service {s : Strategy} {component : Component} {c : Source.Class}
    {noted : Noted Service} (built : s.service component c = .ok noted) :
    IsAssembled c noted.value := by
  obtain ⟨described, operations, describes, run, rfl⟩ := Strategy.service_eq_ok_iff.mp built
  constructor
  case name => exact (fillService_identity describes).1
  case implementationClass => exact (fillService_identity describes).2
  case distinct =>
    have distinct : ((operations.map (·.value)).map (·.name)).Nodup := by
      rw [List.map_map]
      exact nodup_operationNames run
    exact distinct
  case operations =>
    intro o member
    obtain ⟨noted, inRun, rfl⟩ := List.mem_map.mp member
    exact isTitled_operations run noted inRun
  case configParams =>
    intro p member
    obtain ⟨m, _, filled⟩ := List.mem_filterMap.mp member
    exact isPresentable_fillConfigParam? filled

theorem IsAssembled.isPresentable {c : Source.Class} {service : Service}
    (assembled : IsAssembled c service) : service.IsPresentable where
  outputs := fun o member => (assembled.operations o member).outputs
  configParams := assembled.configParams

/-- Where the name of a service says something, so does that of its class. -/
theorem IsAssembled.isBlank_implementationClass {c : Source.Class} {service : Service}
    (assembled : IsAssembled c service) (named : isBlank service.name = false) :
    isBlank service.implementationClass = false := by
  rw [assembled.implementationClass, ← Bool.not_eq_true]
  rw [assembled.name, ← Bool.not_eq_true] at named
  intro blank
  apply named
  rw [isBlank, List.all_eq_true] at blank ⊢
  intro d member
  apply blank
  rw [Class.simpleName, lastSegment, String.toList_ofList, List.mem_reverse] at member
  exact List.mem_reverse.mp ((List.takeWhile_prefix _).subset member)

theorem IsTitled.titles_iff {o : Operation} (titled : IsTitled o) :
    (∀ title ∈ o.titles, isBlank title = false) ↔ o.IsNamed := by
  simp only [Operation.titles, List.forall_mem_cons, List.forall_mem_append, List.forall_mem_map]
  constructor
  · rintro ⟨own, ⟨inputs, _⟩, faults⟩
    constructor
    case own => rwa [titled.own, isBlank_title] at own
    case inputs =>
      intro p member
      rw [← isBlank_title, ← titled.inputs p member]
      exact inputs p member
    case faults =>
      intro f member
      rw [← isBlank_title, ← titled.faults f member]
      exact faults f member
  · rintro ⟨own, inputs, faults⟩
    refine ⟨?_, ⟨?_, titled.outputs⟩, ?_⟩
    · rwa [titled.own, isBlank_title]
    · intro p member
      rw [titled.inputs p member, isBlank_title]
      exact inputs p member
    · intro f member
      rw [titled.faults f member, isBlank_title]
      exact faults f member

theorem IsAssembled.titles_iff {c : Source.Class} {service : Service}
    (assembled : IsAssembled c service) :
    (∀ title ∈ service.titles, isBlank title = false) ↔
      ∀ o ∈ service.operations, o.IsNamed := by
  simp only [Service.titles, List.forall_mem_append, List.forall_mem_flatMap, List.forall_mem_map]
  constructor
  · rintro ⟨titles, _⟩ o member
    exact (assembled.operations o member).titles_iff.mp (titles o member)
  · intro named
    constructor
    · intro o member
      exact (assembled.operations o member).titles_iff.mpr (named o member)
    · intro p member
      exact (assembled.configParams p member).titled

/-! ## Documents -/

/-- The services of a document are assembled from the classes that are services. -/
theorem isAssembled_of_generate {s : Strategy} {prior : Option Component} {tree : Tree}
    {report : Report} (run : s.generate prior tree = .ok report) :
    List.Forall₂ IsAssembled (s.serviceClasses tree) report.component.services := by
  refine (Strategy.services_of_generate run).imp ?_
  rintro c service ⟨noted, built, rfl⟩
  exact isAssembled_service built

theorem exists_isAssembled {classes : List Source.Class} {services : List Service}
    (each : List.Forall₂ IsAssembled classes services) :
    ∀ service ∈ services, ∃ c, IsAssembled c service := by
  exact exists_forall₂_iff.mp ⟨classes, each.flip⟩

/-- Services are named like their classes. -/
theorem names_of_isAssembled {classes : List Source.Class} {services : List Service}
    (each : List.Forall₂ IsAssembled classes services) :
    services.map (·.name) = classes.map (·.simpleName) := by
  rw [← List.forall₂_eq_eq_eq, List.forall₂_map_left_iff, List.forall₂_map_right_iff]
  apply each.flip.imp
  intro service c assembled
  exact IsAssembled.name assembled

section

variable {component : Component}
    (assembled : ∀ service ∈ component.services, ∃ c, IsAssembled c service)

include assembled

theorem keeps_uniqueOperationNames : component.Keeps .uniqueOperationNames := by
  intro service member
  obtain ⟨c, made⟩ := assembled service member
  exact made.distinct

theorem keeps_configParamNameLength : component.Keeps .configParamNameLength := by
  intro service member p inService
  obtain ⟨c, made⟩ := assembled service member
  exact (made.configParams p inService).short

/-- A document that is assembled keeps all rules if its parts are named. -/
theorem keeps_iff_isNamed :
    (∀ rule, component.Keeps rule) ↔ component.IsNamed := by
  constructor
  · intro keeps
    constructor
    case id => exact (keeps .requiredFields).1
    case version => exact (keeps .requiredFields).2
    case services =>
      intro service member
      exact (keeps .serviceImplementation service member).1
    case operations =>
      intro service member
      obtain ⟨c, made⟩ := assembled service member
      exact made.titles_iff.mp (keeps .titlesPresent service member)
  · rintro named rule
    cases rule with
    | requiredFields => exact ⟨named.id, named.version⟩
    | serviceImplementation =>
        intro service member
        obtain ⟨c, made⟩ := assembled service member
        have own := named.services service member
        exact ⟨own, made.isBlank_implementationClass own⟩
    | uniqueOperationNames => exact keeps_uniqueOperationNames assembled
    | configParamNameLength => exact keeps_configParamNameLength assembled
    | titlesPresent =>
        intro service member
        obtain ⟨c, made⟩ := assembled service member
        exact made.titles_iff.mpr (named.operations service member)

end

/-- A document that is made is valid exactly if its parts are named.  Whichever rules are checked,
it never breaks those about distinct names of operations and about the length of names, and
outputs and configuration parameters do not change the answer.  Services are named like their
classes. -/
theorem validate_of_generate {s : Strategy} {prior : Option Component} {tree : Tree}
    {report : Report} (run : s.generate prior tree = .ok report) :
    (∀ rules v, report.component.validateWith rules = .error v →
      v.rule ≠ .uniqueOperationNames ∧ v.rule ≠ .configParamNameLength) ∧
    (report.component.validate = .ok () ↔ report.component.IsNamed) ∧
    report.component.services.map (·.name) = (s.serviceClasses tree).map (·.simpleName) ∧
    (∀ service ∈ report.component.services, service.IsPresentable) ∧
    ∀ rules, report.component.validateWith rules = report.component.core.validateWith rules := by
  have each := isAssembled_of_generate run
  have assembled := exists_isAssembled each
  have presentable : ∀ service ∈ report.component.services, service.IsPresentable := by
    intro service member
    obtain ⟨c, made⟩ := assembled service member
    exact made.isPresentable
  refine ⟨?_, ?_, ?_, presentable, ?_⟩
  · intro rules v failed
    have broken := Component.not_keeps_of_validateWith failed
    constructor
    · intro repeated
      rw [repeated] at broken
      exact broken (keeps_uniqueOperationNames assembled)
    · intro long
      rw [long] at broken
      exact broken (keeps_configParamNameLength assembled)
  · rw [Component.validate_eq_ok_iff, keeps_iff_isNamed assembled]
  · exact names_of_isAssembled each
  · intro rules
    exact (Component.validateWith_core presentable rules).symm

/-! ## A valid document -/

/-- A class with an operation that takes, returns and throws something, and a property. -/
def findingClass : Source.Class where
  qualifiedName := "shop.Orders"
  members :=
    [{ name := "findOrder"
       parameters := [{ name := "orderKey", type := { name := "java.lang.String" } }]
       returnType := some { name := "shop.Order" }
       faults := [{ name := "shop.NotFound" }] },
      { name := "setPageSize", parameters := [{ name := "size", type := { name := "int" } }] }]

/-- The tree of that class. -/
def findingTree : Tree where
  classes := [findingClass]
  ordered := by simp

/-- What an earlier document said about the component. -/
def findingShop : Component where
  id := some "shop"
  version := some "1.0"

/-- The report on that tree. -/
def findingReport : Report where
  component :=
    { findingShop with
      services :=
        [{ name := "Orders"
           implementationClass := "shop.Orders"
           autoDeploy := some { serviceId := "Orders", categoryId := "shop" }
           operations :=
             [{ name := "findOrder"
                title := "Find order"
                inputs :=
                  [{ name := "orderKey", type := "java.lang.String", title := "Order key" }]
                outputs := [{ name := "out", type := "shop.Order", title := "out" }]
                faults :=
                  [{ name := "NotFound", type := "shop.NotFound", title := "Not found" }] }]
           configParams :=
             [{ name := "pageSize", type := "int", title := "Page size" }] }] }

theorem generate_findingTree :
    ({ kind := .doclets } : Strategy).generate (some findingShop) findingTree =
      .ok findingReport := by
  decide +kernel

theorem isNamed_findingReport : findingReport.component.IsNamed where
  id := by decide
  version := by decide
  services := by decide
  operations := by
    intro service member o inService
    rw [List.mem_singleton.mp member] at inService
    rw [List.mem_singleton.mp inService]
    exact { own := by decide, inputs := by decide, faults := by decide }

theorem validate_of_generate_findingTree :
    ({ kind := .doclets } : Strategy).generate (some findingShop) findingTree =
        .ok findingReport ∧
      findingReport.component.validate = .ok () ∧
      findingReport.component.core.validate = .ok () := by
  obtain ⟨_, valid_iff, _, _, sameAnswer⟩ := validate_of_generate generate_findingTree
  have valid := valid_iff.mpr isNamed_findingReport
  refine ⟨generate_findingTree, valid, ?_⟩
  rw [Component.validate, ← sameAnswer]
  exact valid

end ComponentGen.Extraction

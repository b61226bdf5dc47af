import ComponentGen.Proofs.Extraction.Members
import ComponentGen.Proofs.Extraction.Runs
import ComponentGen.Proofs.Source.TagComments

/-!
# The warnings of a run

Four kinds of metadata are warned about: factory methods behind the first one, request strategies
that do not exist, versions that are no numbers, and tags that comment on nothing.  The warnings
of a class are told here from its declaration alone, by what is given and what is wrong with it,
and a run is shown to make these and no others, class by class.  What is warned about is left out
of the document.
-/

namespace ComponentGen.Extraction

open Document Number Outcome Source Text

/-! ## Versions that are no numbers -/

/-- The number of 32 bits that a value is or says. -/
def numberSaid? : AnnotationValue → Option Int
  | .int n => if fitsInt32 n then some n else none
  | .text s => int32OfText? (trim s)
  | _ => none

/-- How a warning shows a value. -/
def shownValue : AnnotationValue → String
  | .bool b => if b then "true" else "false"
  | .int n => intText n
  | .float x => x.text
  | .text s => s
  | .list _ => "[...]"
  | .nested _ => "\x7b...\x7d"

namespace Strategy

/-- The value that a class gives for a part of its version: in the version of its annotation, or
with the first tag of that name. -/
def givenVersion? (s : Strategy) (c : Source.Class) (part : String) : Option AnnotationValue :=
  match s.kind with
  | .annotations =>
      match (c.annotation? serviceAnnotation).bind (·.get? "version") with
      | some (.nested parts) => Dictionary.get? parts part
      | _ => none
  | .doclets => (c.tag? part).map (.text ·.value)

/-- Whether a number counts as given.  In annotations a negative one stands for none. -/
def admitsVersion (s : Strategy) (n : Int) : Bool :=
  match s.kind with
  | .annotations => 0 ≤ n
  | .doclets => true

/-- The part of the version that a document has for a class. -/
def version? (s : Strategy) (c : Source.Class) (part : String) : Option Int :=
  ((s.givenVersion? c part).bind numberSaid?).filter s.admitsVersion

/-- The warning about a part of the version, if a value is given that says no number. -/
def versionWarnings (s : Strategy) (c : Source.Class) (part : String) : List Warning :=
  match s.givenVersion? c part with
  | some value =>
      if (numberSaid? value).isSome then []
      else [.malformedVersion c.qualifiedName part (shownValue value)]
  | none => []

/-- What a given value comes to. -/
def versionNumber (s : Strategy) : Option AnnotationValue → VersionNumber
  | none => .unset
  | some value =>
      match numberSaid? value with
      | some n => if s.admitsVersion n then .value n else .unset
      | none => .malformed (shownValue value)

theorem notedVersion_versionNumber (s : Strategy) (c : Source.Class) (part : String) :
    notedVersion c part (s.versionNumber (s.givenVersion? c part)) =
      { value := s.version? c part, warnings := s.versionWarnings c part } := by
  unfold version? versionWarnings
  cases s.givenVersion? c part with
  | none => rfl
  | some value =>
      cases said : numberSaid? value with
      | none => simp [versionNumber, said, notedVersion]
      | some n =>
          by_cases admitted : s.admitsVersion n = true
          · simp [versionNumber, said, notedVersion, admitted, Option.filter_some]
          · simp [versionNumber, said, notedVersion, admitted, Option.filter_some]

theorem ofAnnotationValue_eq (category : Option String) (given : Option AnnotationValue) :
    VersionNumber.ofAnnotationValue given =
      versionNumber { kind := .annotations, category } given := by
  have ofInt (n : Int) : VersionNumber.ofInt n =
      if admitsVersion { kind := .annotations, category } n then .value n else .unset := by
    by_cases negative : n < 0
    · simp [VersionNumber.ofInt, admitsVersion, negative]
    · simp [VersionNumber.ofInt, admitsVersion, negative]
  cases given with
  | none => rfl
  | some value =>
      cases value with
      | int n =>
          by_cases fits : fitsInt32 n = true
          · simp [VersionNumber.ofAnnotationValue, versionNumber, numberSaid?, fits, ofInt]
          · simp [VersionNumber.ofAnnotationValue, versionNumber, numberSaid?, fits, shownValue]
      | text t =>
          cases said : int32OfText? (trim t) with
          | none =>
              simp [VersionNumber.ofAnnotationValue, versionNumber, numberSaid?, said, shownValue]
          | some n => simp [VersionNumber.ofAnnotationValue, versionNumber, numberSaid?, said, ofInt]
      | bool b => rfl
      | float x => rfl
      | list items => rfl
      | nested values => rfl

theorem versionPart_eq (category : Option String) (c : Source.Class) (part : String) :
    versionPart ((c.annotation? serviceAnnotation).getD []) part =
      versionNumber { kind := .annotations, category }
        (givenVersion? { kind := .annotations, category } c part) := by
  rw [← ofAnnotationValue_eq, versionPart, givenVersion?]
  cases c.annotation? serviceAnnotation with
  | none => rfl
  | some values =>
      simp only [Option.getD_some, Option.bind_some]
      cases Dictionary.get? values "version" with
      | none => rfl
      | some value => cases value <;> rfl

theorem tagVersion_eq (category : Option String) (c : Source.Class) (part : String) :
    ((c.tag? part).map fun t => VersionNumber.ofTag t.value).getD .unset =
      versionNumber { kind := .doclets, category }
        (givenVersion? { kind := .doclets, category } c part) := by
  cases found : c.tag? part with
  | none => simp [givenVersion?, found, versionNumber]
  | some tag =>
      cases said : int32OfText? (trim tag.value) <;>
        simp [givenVersion?, found, versionNumber, VersionNumber.ofTag, numberSaid?, said,
          admitsVersion, shownValue]

/-! ## Deployment -/

/-- Whether a class is to be deployed by itself, which only an annotation can deny. -/
def deploysItself (s : Strategy) (c : Source.Class) : Bool :=
  match s.kind with
  | .annotations => (Annotated.serviceMarker c).autoDeploy
  | .doclets => true

theorem fillAutoDeploy?_eq (s : Strategy) (component : Component) (c : Source.Class)
    (node : AutoDeploy) :
    ∃ categoryId, s.fillAutoDeploy? component c node =
      if s.deploysItself c then
        some {
          value := {
            serviceId := c.simpleName
            categoryId
            majorVersion := s.version? c "major"
            minorVersion := s.version? c "minor" }
          warnings := s.versionWarnings c "major" ++ s.versionWarnings c "minor" }
      else none := by
  rcases s with ⟨kind, category⟩
  cases kind with
  | annotations =>
      refine ⟨categoryFor (Annotated.serviceMarker c).categoryId category component, ?_⟩
      simp only [fillAutoDeploy?, Annotated.fillAutoDeploy?, Annotated.serviceMarker,
        ServiceMarker.ofValues, versionPart_eq category, notedVersion_versionNumber]
      rfl
  | doclets =>
      refine ⟨categoryFor none category component, ?_⟩
      simp only [fillAutoDeploy?, Tagged.fillAutoDeploy, Tagged.version, tagVersion_eq category,
        notedVersion_versionNumber]
      rfl

/-! ## Request strategies that do not exist -/

/-- The text that a class gives for how its requests are processed. -/
def givenRequestStrategy? (s : Strategy) (c : Source.Class) : Option String :=
  match s.kind with
  | .annotations =>
      match (c.annotation? serviceAnnotation).bind (·.get? "requestProcessingStrategy") with
      | some (.text t) => nonBlank? t
      | _ => none
  | .doclets => none

end Strategy

/-- The constants for how requests are processed. -/
def requestConstants : List String :=
  ["NONE", "SINGLE_INSTANCE", "INSTANCE_PER_REQUEST", "POOLED_INSTANCE"]

/-- The constant that a text names, perhaps with the class of the constant in front of it. -/
def namedConstant (t : String) : String := lastSegment '.' (trim t)

theorem ofText?_eq_none_iff {t : String} :
    RequestStrategy.ofText? t = none ↔ namedConstant t ∉ requestConstants := by
  change (RequestStrategy.all.find? (·.constant == namedConstant t)) = none ↔
    namedConstant t ∉ RequestStrategy.all.map (·.constant)
  simp

theorem constant_of_ofText? {t : String} {strategy : RequestStrategy}
    (found : RequestStrategy.ofText? t = some strategy) : strategy.constant = namedConstant t := by
  simpa [namedConstant] using List.find?_some found

theorem constant_mem_requestConstants (strategy : RequestStrategy) :
    strategy.constant ∈ requestConstants := by
  cases strategy <;> decide

namespace Strategy

/-- How a document has the requests to a class processed. -/
def requestStrategy? (s : Strategy) (c : Source.Class) : Option String :=
  ((s.givenRequestStrategy? c).map namedConstant).filter fun constant =>
    constant ∈ requestConstants ∧ constant ≠ "NONE"

/-- The warning about how requests are processed, if a text is given that names no constant. -/
def requestWarnings (s : Strategy) (c : Source.Class) : List Warning :=
  match s.givenRequestStrategy? c with
  | some given =>
      if namedConstant given ∈ requestConstants then []
      else [.unknownRequestStrategy c.qualifiedName given]
  | none => []

theorem requestStrategy_eq (s : Strategy) (c : Source.Class) :
    Annotated.requestStrategy c (s.givenRequestStrategy? c) =
      { value := s.requestStrategy? c, warnings := s.requestWarnings c } := by
  unfold requestStrategy? requestWarnings
  cases s.givenRequestStrategy? c with
  | none => rfl
  | some given =>
      cases found : RequestStrategy.ofText? given with
      | none =>
          have unknown := ofText?_eq_none_iff.mp found
          simp [Annotated.requestStrategy, found, unknown, Option.filter_some]
      | some strategy =>
          have named := constant_of_ofText? found
          have known := constant_mem_requestConstants strategy
          cases strategy <;> simp only [RequestStrategy.constant] at named known <;>
            simp [Annotated.requestStrategy, found, ← named, known, Option.filter_some,
              RequestStrategy.constant]

theorem requestStrategy_serviceMarker (category : Option String) (c : Source.Class) :
    (Annotated.serviceMarker c).requestStrategy =
      givenRequestStrategy? { kind := .annotations, category } c := by
  rw [Annotated.serviceMarker, ServiceMarker.ofValues, givenRequestStrategy?]
  cases c.annotation? serviceAnnotation <;> rfl

/-! ## Factory methods behind the first one -/

/-- The warnings about all members but the first one that are marked as factory methods. -/
def factoryWarnings (s : Strategy) (c : Source.Class) : List Warning :=
  match s.factoryMembers c with
  | [] => []
  | used :: ignored =>
      ignored.map fun other => .multipleFactoryMethods c.qualifiedName used.name other.name

theorem warnings_factoryMethod {s : Strategy} {c : Source.Class} {noted : Noted (Option String)}
    (made : factoryMethod c (s.factoryMembers c) = .ok noted) :
    noted.warnings = s.factoryWarnings c := by
  unfold factoryWarnings
  cases marked : s.factoryMembers c with
  | nil =>
      rw [marked] at made
      cases made
      rfl
  | cons used ignored =>
      rw [marked, factoryMethod] at made
      split at made
      · cases made
      · cases made
        rfl

/-- The description of a service comes with the warnings about its factory methods and about how
its requests are processed. -/
theorem of_fillService {s : Strategy} {c : Source.Class} {described : Noted Service}
    (describes : s.fillService c {} = .ok described) :
    described.warnings = s.factoryWarnings c ++ s.requestWarnings c ∧
      described.value.requestProcessingStrategy = s.requestStrategy? c := by
  rcases s with ⟨kind, category⟩
  cases kind with
  | annotations =>
      rcases bind_eq_ok_iff.mp describes with ⟨factory, made, done⟩
      rw [requestStrategy_serviceMarker category, requestStrategy_eq, pure_eq_ok_iff] at done
      rw [← factoryMembers_annotations category] at made
      rw [← done, warnings_factoryMethod made]
      exact ⟨rfl, rfl⟩
  | doclets =>
      rcases bind_eq_ok_iff.mp describes with ⟨factory, made, done⟩
      rw [pure_eq_ok_iff] at done
      rw [← factoryMembers_doclets category] at made
      rw [← done, warnings_factoryMethod made]
      exact ⟨(List.append_nil _).symm, rfl⟩

end Strategy

/-! ## Tags that comment on nothing -/

/-- Whether a text has no white space in it. -/
def hasNoSpace (t : String) : Bool := t.toList.all (!isSpace ·)

/-- The warnings about the tags of a name that have nothing behind their first word. -/
def commentWarnings (c : Source.Class) (m : Member) (tag : String) : List Warning :=
  (((m.tags.filter (·.name == tag)).map (trim ·.value)).filter hasNoSpace).map
    (.malformedTagComment c.qualifiedName m.name tag)

/-- The warnings about an operation: about its parameters first and then about its faults. -/
def operationWarnings (c : Source.Class) (m : Member) : List Warning :=
  commentWarnings c m "param" ++ commentWarnings c m "throws"

theorem malformed_tagComments (m : Member) (tag : String) :
    (m.tagComments tag).malformed =
      ((m.tags.filter (·.name == tag)).map (trim ·.value)).filter hasNoSpace := by
  have single (t : Tag) : (!t.isWellFormed) = hasNoSpace (trim t.value) := by
    rw [Tag.isWellFormed, hasNoSpace, List.not_any_eq_all_not]
  simp only [(sortsTags_tagComments m.toMetadata tag).malformed, List.filter_map, single,
    Metadata.tagsNamed, Function.comp_def]

theorem tagWarnings_eq (c : Source.Class) (m : Member) :
    tagWarnings c m = operationWarnings c m := by
  simp [tagWarnings, operationWarnings, commentWarnings, malformed_tagComments, paramTag, throwsTag]

namespace Strategy

theorem warnings_operation {s : Strategy} {c : Source.Class} {earlier : List String} {m : Member}
    {o : Noted Operation} (step : s.operation c earlier m = .ok o) :
    o.warnings = operationWarnings c m := by
  rw [← tagWarnings_eq]
  rcases map_eq_ok_iff.mp step with ⟨described, filled, rfl⟩
  rcases s with ⟨kind, category⟩
  cases kind with
  | annotations =>
      rcases bind_eq_ok_iff.mp filled with ⟨named, _, done⟩
      cases pure_eq_ok_iff.mp done
      rfl
  | doclets =>
      rcases bind_eq_ok_iff.mp filled with ⟨named, _, done⟩
      cases pure_eq_ok_iff.mp done
      rfl

/-! ## Services -/

/-- The warnings about a class that is a service. -/
def warningsOf (s : Strategy) (c : Source.Class) : List Warning :=
  s.factoryWarnings c ++ s.requestWarnings c ++
    (if s.deploysItself c then s.versionWarnings c "major" ++ s.versionWarnings c "minor" else []) ++
    (s.operationMembers c).flatMap (operationWarnings c)

theorem warnings_service {s : Strategy} {component : Component} {c : Source.Class}
    {noted : Noted Service} (built : s.service component c = .ok noted) :
    noted.warnings = s.warningsOf c := by
  rcases service_eq_ok_iff.mp built with ⟨described, operations, describes, run, rfl⟩
  have deployed : ((s.fillAutoDeploy? component c {}).map (·.warnings)).getD [] =
      if s.deploysItself c then s.versionWarnings c "major" ++ s.versionWarnings c "minor"
      else [] := by
    rcases s.fillAutoDeploy?_eq component c {} with ⟨categoryId, filled⟩
    rw [filled]
    split <;> rfl
  have commented : (s.operationMembers c).flatMap (operationWarnings c) =
      operations.flatMap (·.warnings) := by
    rw [← List.forall₂_eq_eq_eq]
    refine List.rel_flatMap (forall₂_operation run) ?_
    rintro m o ⟨earlier, step⟩
    rw [List.forall₂_eq_eq_eq]
    exact (warnings_operation step).symm
  change described.warnings ++ ((s.fillAutoDeploy? component c {}).map (·.warnings)).getD [] ++
    operations.flatMap (·.warnings) = s.warningsOf c
  rw [(of_fillService describes).1, deployed, ← commented, warningsOf]

end Strategy

/-! ## What is warned about -/

/-- The rule for the warnings about a class that is a service. -/
inductive Warned (s : Strategy) (c : Source.Class) : Warning → Prop where
  | factory {used ignored : Member} {others : List Member}
      (marked : s.factoryMembers c = used :: others) (later : ignored ∈ others) :
      Warned s c (.multipleFactoryMethods c.qualifiedName used.name ignored.name)
  | request {given : String} (found : s.givenRequestStrategy? c = some given)
      (unknown : namedConstant given ∉ requestConstants) :
      Warned s c (.unknownRequestStrategy c.qualifiedName given)
  | version {part : String} {given : AnnotationValue} (deploys : s.deploysItself c = true)
      (isPart : part = "major" ∨ part = "minor") (found : s.givenVersion? c part = some given)
      (malformed : numberSaid? given = none) :
      Warned s c (.malformedVersion c.qualifiedName part (shownValue given))
  | comment {m : Member} {tag : Tag} (operation : m ∈ s.operationMembers c)
      (given : tag ∈ m.tags) (isKind : tag.name = "param" ∨ tag.name = "throws")
      (single : hasNoSpace (trim tag.value) = true) :
      Warned s c (.malformedTagComment c.qualifiedName m.name tag.name (trim tag.value))

namespace Strategy

theorem warned_of_mem_factoryWarnings {s : Strategy} {c : Source.Class} {w : Warning}
    (member : w ∈ s.factoryWarnings c) : Warned s c w := by
  unfold factoryWarnings at member
  split at member
  case h_1 => cases member
  case h_2 used others marked =>
    rcases List.mem_map.mp member with ⟨ignored, later, rfl⟩
    exact .factory marked later

theorem warned_of_mem_requestWarnings {s : Strategy} {c : Source.Class} {w : Warning}
    (member : w ∈ s.requestWarnings c) : Warned s c w := by
  unfold requestWarnings at member
  split at member
  case h_1 given found =>
    rcases List.mem_ite_nil_left.mp member with ⟨unknown, listed⟩
    cases List.mem_singleton.mp listed
    exact .request found unknown
  case h_2 => cases member

theorem warned_of_mem_versionWarnings {s : Strategy} {c : Source.Class} {part : String}
    {w : Warning} (deploys : s.deploysItself c = true) (isPart : part = "major" ∨ part = "minor")
    (member : w ∈ s.versionWarnings c part) : Warned s c w := by
  unfold versionWarnings at member
  split at member
  case h_1 given found =>
    rcases List.mem_ite_nil_left.mp member with ⟨malformed, listed⟩
    cases List.mem_singleton.mp listed
    exact .version deploys isPart found (by simpa using malformed)
  case h_2 => cases member

theorem warned_of_mem_commentWarnings {s : Strategy} {c : Source.Class} {m : Member}
    {name : String} {w : Warning} (operation : m ∈ s.operationMembers c)
    (isKind : name = "param" ∨ name = "throws") (member : w ∈ commentWarnings c m name) :
    Warned s c w := by
  simp only [commentWarnings, List.mem_map, List.mem_filter, beq_iff_eq] at member
  rcases member with ⟨_, ⟨⟨tag, ⟨given, rfl⟩, rfl⟩, single⟩, rfl⟩
  exact .comment operation given isKind single

/-- All warnings about a class follow the rule. -/
theorem warned_of_mem_warningsOf {s : Strategy} {c : Source.Class} {w : Warning}
    (member : w ∈ s.warningsOf c) : Warned s c w := by
  simp only [warningsOf, operationWarnings, List.mem_append, List.mem_ite_nil_right,
    List.mem_flatMap] at member
  rcases member with
    ((factory | request) | ⟨deploys, major | minor⟩) | ⟨m, operation, param | throws⟩
  · exact warned_of_mem_factoryWarnings factory
  · exact warned_of_mem_requestWarnings request
  · exact warned_of_mem_versionWarnings deploys (.inl rfl) major
  · exact warned_of_mem_versionWarnings deploys (.inr rfl) minor
  · exact warned_of_mem_commentWarnings operation (.inl rfl) param
  · exact warned_of_mem_commentWarnings operation (.inr rfl) throws

end Strategy

/-- What a service has where its class may be warned about: the numbers and the constant that
are given rightly, and nothing in the place of what a warning is about. -/
structure LeavesOutWarned (s : Strategy) (c : Source.Class) (service : Service) : Prop where
  deployed : service.autoDeploy.isSome = s.deploysItself c
  major : ∀ a ∈ service.autoDeploy, a.majorVersion = s.version? c "major"
  minor : ∀ a ∈ service.autoDeploy, a.minorVersion = s.version? c "minor"
  requestStrategy : service.requestProcessingStrategy = s.requestStrategy? c
  malformedVersion : ∀ className part value,
    .malformedVersion className part value ∈ s.warningsOf c →
      ∃ a, service.autoDeploy = some a ∧
        (part = "major" ∧ a.majorVersion = none ∨ part = "minor" ∧ a.minorVersion = none)
  unknownRequestStrategy : ∀ className value,
    .unknownRequestStrategy className value ∈ s.warningsOf c →
      service.requestProcessingStrategy = none

theorem autoDeploy_service {s : Strategy} {component : Component} {c : Source.Class}
    {noted : Noted Service} (built : s.service component c = .ok noted) :
    noted.value.autoDeploy.isSome = s.deploysItself c ∧
      ∀ a ∈ noted.value.autoDeploy,
        a.majorVersion = s.version? c "major" ∧ a.minorVersion = s.version? c "minor" := by
  rcases Strategy.service_eq_ok_iff.mp built with ⟨described, operations, _, _, rfl⟩
  change ((s.fillAutoDeploy? component c {}).map (·.value)).isSome = _ ∧
    ∀ a ∈ (s.fillAutoDeploy? component c {}).map (·.value), _
  rcases s.fillAutoDeploy?_eq component c {} with ⟨categoryId, filled⟩
  rw [filled]
  cases s.deploysItself c with
  | false => simp
  | true => simp

theorem requestProcessingStrategy_service {s : Strategy} {component : Component}
    {c : Source.Class} {noted : Noted Service} (built : s.service component c = .ok noted) :
    noted.value.requestProcessingStrategy = s.requestStrategy? c := by
  rcases Strategy.service_eq_ok_iff.mp built with ⟨described, operations, describes, _, rfl⟩
  exact (Strategy.of_fillService describes).2

theorem leavesOutWarned_service {s : Strategy} {component : Component} {c : Source.Class}
    {noted : Noted Service} (built : s.service component c = .ok noted) :
    LeavesOutWarned s c noted.value := by
  rcases autoDeploy_service built with ⟨deployed, versions⟩
  have strategy := requestProcessingStrategy_service built
  constructor
  case deployed => exact deployed
  case major => exact fun a given => (versions a given).1
  case minor => exact fun a given => (versions a given).2
  case requestStrategy => exact strategy
  case malformedVersion =>
    intro className part value member
    cases Strategy.warned_of_mem_warningsOf member with
    | version deploys isPart found malformed =>
        rw [deploys] at deployed
        rcases Option.isSome_iff_exists.mp deployed with ⟨a, present⟩
        rcases versions a present with ⟨major, minor⟩
        have omitted : s.version? c part = none := by
          simp [Strategy.version?, found, malformed]
        refine ⟨a, present, ?_⟩
        rcases isPart with rfl | rfl
        · exact .inl ⟨rfl, major.trans omitted⟩
        · exact .inr ⟨rfl, minor.trans omitted⟩
  case unknownRequestStrategy =>
    intro className value member
    cases Strategy.warned_of_mem_warningsOf member with
    | request found unknown =>
        rw [strategy]
        simp [Strategy.requestStrategy?, found, Option.filter_some, unknown]

/-- The warnings of a run are those of the classes that are services, one class after the other.
Each of them follows the rule, and what it is about is left out of the service of its class. -/
theorem warnings_of_generate {s : Strategy} {prior : Option Component} {tree : Tree}
    {report : Report} (run : s.generate prior tree = .ok report) :
    report.warnings = (s.serviceClasses tree).flatMap s.warningsOf ∧
      (∀ w ∈ report.warnings, ∃ c ∈ s.serviceClasses tree, Warned s c w) ∧
      List.Forall₂ (LeavesOutWarned s) (s.serviceClasses tree) report.component.services := by
  rcases Strategy.parts_of_generate run with ⟨parts, each, component, warnings⟩
  have concatenated : report.warnings = (s.serviceClasses tree).flatMap s.warningsOf := by
    rw [warnings, eq_comm, ← List.forall₂_eq_eq_eq]
    refine List.rel_flatMap each ?_
    intro c noted built
    rw [List.forall₂_eq_eq_eq]
    exact (Strategy.warnings_service built).symm
  refine ⟨concatenated, ?_, ?_⟩
  · intro w member
    rw [concatenated, List.mem_flatMap] at member
    rcases member with ⟨c, isService, ofClass⟩
    exact ⟨c, isService, Strategy.warned_of_mem_warningsOf ofClass⟩
  · rw [component, List.forall₂_map_right_iff]
    exact each.imp fun c noted built => leavesOutWarned_service built

/-! ## A tree with much to warn about -/

/-- A class whose annotation gives a version and a request strategy that do not exist, with two
methods more than it needs to make its instances and an operation whose tags comment on
nothing. -/
def basketClass : Source.Class where
  qualifiedName := "shop.Basket"
  annotations :=
    [("Service",
      [("requestProcessingStrategy", .text "Strategy.SHARED"),
        ("version", .nested [("major", .text "one"), ("minor", .bool true)])])]
  members :=
    [{ name := "create", isStatic := true, annotations := [("FactoryMethod", [])] },
      { name := "copy", isStatic := true, annotations := [("FactoryMethod", [])] },
      { name := "add"
        tags :=
          [{ name := "throws", value := "Full" }, { name := "param", value := " item " },
            { name := "param", value := "count how many" }] },
      { name := "make", annotations := [("FactoryMethod", [])] }]

/-- A class that is not to be deployed, so that its version does not matter. -/
def orderClass : Source.Class where
  qualifiedName := "shop.Order"
  annotations :=
    [("Service",
      [("autoDeploy", .bool false), ("version", .nested [("major", .text "first")])])]
  members := [{ name := "send", tags := [{ name := "param", value := "" }] }]

/-- The tree of these classes. -/
def shopTree : Tree where
  classes := [basketClass, orderClass]
  ordered := by decide

/-- The report on that tree. -/
def shopReport : Report where
  component :=
    { services :=
        [{ name := "Basket"
           implementationClass := "shop.Basket"
           factoryMethod := some "create"
           autoDeploy := some { serviceId := "Basket" }
           operations := [{ name := "add", title := "Add" }] },
          { name := "Order"
            implementationClass := "shop.Order"
            operations := [{ name := "send", title := "Send" }] }] }
  warnings :=
    [.multipleFactoryMethods "shop.Basket" "create" "copy",
      .multipleFactoryMethods "shop.Basket" "create" "make",
      .unknownRequestStrategy "shop.Basket" "Strategy.SHARED",
      .malformedVersion "shop.Basket" "major" "one",
      .malformedVersion "shop.Basket" "minor" "true",
      .malformedTagComment "shop.Basket" "add" "param" "item",
      .malformedTagComment "shop.Basket" "add" "throws" "Full",
      .malformedTagComment "shop.Order" "send" "param" ""]

theorem generate_shopTree :
    ({ kind := .annotations } : Strategy).generate none shopTree = .ok shopReport := by
  decide +kernel

theorem warnings_of_generate_shopTree :
    ({ kind := .annotations } : Strategy).generate none shopTree = .ok shopReport ∧
      shopReport.warnings =
        (Strategy.serviceClasses { kind := .annotations } shopTree).flatMap
          (Strategy.warningsOf { kind := .annotations }) ∧
      List.Forall₂ (LeavesOutWarned { kind := .annotations })
        (Strategy.serviceClasses { kind := .annotations } shopTree)
        shopReport.component.services := by
  rcases warnings_of_generate generate_shopTree with ⟨concatenated, _, leftOut⟩
  exact ⟨generate_shopTree, concatenated, leftOut⟩

end ComponentGen.Extraction

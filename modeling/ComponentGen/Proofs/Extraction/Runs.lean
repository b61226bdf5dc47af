import ComponentGen.Extraction.Generation
import ComponentGen.Proofs.Outcome

/-!
# Runs of a strategy

What a successful and a failed run consist of.  A run makes one contribution for each class of
the tree, and the first class that cannot make its contribution ends it.  A service is taken
from its class and, of all that is known about the component as a whole, from its name only; and
whether it can be made at all does not even depend on that.
-/

namespace ComponentGen.Extraction

open Document Outcome Source

namespace Strategy

/-- Whether a class is a service. -/
def isServiceClass (s : Strategy) (c : Source.Class) : Bool :=
  match s.isService c with
  | .ok answer => answer
  | .error _ => false

/-- The classes of a tree that are services. -/
def serviceClasses (s : Strategy) (tree : Tree) : List Source.Class :=
  tree.classes.filter s.isServiceClass

/-- The members of a class that are operations. -/
def operationMembers (s : Strategy) (c : Source.Class) : List Member :=
  c.members.filter s.isOperation

/-- The report of a run in which the classes contributed the given services. -/
def reportOf (component : Component) (contributions : List (Option (Noted Service))) : Report where
  component := { component with services := (contributions.filterMap id).map (·.value) }
  warnings := (contributions.filterMap id).flatMap (·.warnings)

/-! ## One class -/

theorem contribution_eq_ok_iff {s : Strategy} {component : Component} {c : Source.Class}
    {result : Option (Noted Service)} :
    s.contribution component c = .ok result ↔
      (s.isService c = .ok false ∧ result = none) ∨
        s.isService c = .ok true ∧ ∃ service, s.service component c = .ok service ∧
          result = some service := by
  simp only [contribution, bind_eq_ok_iff]
  constructor
  · rintro ⟨answer, eligible, made⟩
    cases answer with
    | false => exact .inl ⟨eligible, (pure_eq_ok_iff.mp made).symm⟩
    | true =>
        rcases bind_eq_ok_iff.mp made with ⟨service, built, done⟩
        exact .inr ⟨eligible, service, built, (pure_eq_ok_iff.mp done).symm⟩
  · rintro (⟨eligible, rfl⟩ | ⟨eligible, service, built, rfl⟩)
    · exact ⟨false, eligible, rfl⟩
    · exact ⟨true, eligible, bind_eq_ok_iff.mpr ⟨service, built, rfl⟩⟩

theorem contribution_eq_error_iff {s : Strategy} {component : Component} {c : Source.Class}
    {failure : Failure} :
    s.contribution component c = .error failure ↔
      s.isService c = .error failure ∨
        s.isService c = .ok true ∧ s.service component c = .error failure := by
  rw [contribution, bind_eq_error_iff]
  constructor
  · rintro (failed | ⟨answer, eligible, made⟩)
    · exact .inl failed
    · cases answer with
      | false => cases made
      | true =>
          rcases bind_eq_error_iff.mp made with failed | ⟨_, _, impossible⟩
          · exact .inr ⟨eligible, failed⟩
          · cases impossible
  · rintro (failed | ⟨eligible, failed⟩)
    · exact .inl failed
    · exact .inr ⟨true, eligible, bind_eq_error_iff.mpr (.inl failed)⟩

/-- The service of a class, from its description and its operations. -/
def assembled (s : Strategy) (component : Component) (c : Source.Class)
    (described : Noted Service) (operations : List (Noted Operation)) : Noted Service :=
  let deployed := s.fillAutoDeploy? component c {}
  { value := { described.value with
      autoDeploy := deployed.map (·.value)
      operations := operations.map (·.value)
      configParams := (c.members.filter s.isConfigParam).filterMap (s.fillConfigParam? · {}) }
    warnings :=
      described.warnings ++ (deployed.map (·.warnings)).getD [] ++
        operations.flatMap (·.warnings) }

/-- A service is made if its class can be described and its operations can be named. -/
theorem service_eq_ok_iff {s : Strategy} {component : Component} {c : Source.Class}
    {service : Noted Service} :
    s.service component c = .ok service ↔
      ∃ described operations, s.fillService c {} = .ok described ∧
        s.operations c [] (s.operationMembers c) = .ok operations ∧
        service = s.assembled component c described operations := by
  simp only [Strategy.service, bind_eq_ok_iff, pure_eq_ok_iff]
  constructor
  · rintro ⟨described, describes, operations, run, rfl⟩
    exact ⟨described, operations, describes, run, rfl⟩
  · rintro ⟨described, operations, describes, run, rfl⟩
    exact ⟨described, describes, operations, run, rfl⟩

theorem service_eq_error_iff {s : Strategy} {component : Component} {c : Source.Class}
    {failure : Failure} :
    s.service component c = .error failure ↔
      s.fillService c {} = .error failure ∨ (∃ described, s.fillService c {} = .ok described) ∧
        s.operations c [] (s.operationMembers c) = .error failure := by
  simp [Strategy.service, bind_eq_error_iff, pure, Except.pure, operationMembers]

/-- Each member has one operation, which is made behind those of the members before it. -/
theorem forall₂_operation {s : Strategy} {c : Source.Class} {existing : List String}
    {members : List Member} {operations : List (Noted Operation)}
    (run : s.operations c existing members = .ok operations) :
    List.Forall₂ (fun m o => ∃ earlier, s.operation c earlier m = .ok o) members operations := by
  induction members generalizing existing operations with
  | nil =>
      cases run
      exact .nil
  | cons m rest ih =>
      rcases bind_eq_ok_iff.mp run with ⟨first, step, others⟩
      rcases bind_eq_ok_iff.mp others with ⟨later, more, all⟩
      cases pure_eq_ok_iff.mp all
      exact .cons ⟨existing, step⟩ (ih more)

/-! ## The whole tree -/

/-- A run is a report on what the classes contribute. -/
theorem generate_eq_map (s : Strategy) (prior : Option Component) (tree : Tree) :
    s.generate prior tree =
      (tree.classes.mapM (s.contribution (frame prior tree))).map
        (reportOf (frame prior tree)) := by
  change (tree.classes.mapM (s.contribution (frame prior tree)) >>= fun contributions =>
    pure (reportOf (frame prior tree) contributions)) = _
  cases tree.classes.mapM (s.contribution (frame prior tree)) <;> rfl

theorem generate_eq_ok_iff {s : Strategy} {prior : Option Component} {tree : Tree}
    {report : Report} :
    s.generate prior tree = .ok report ↔
      ∃ contributions,
        List.Forall₂ (fun c result => s.contribution (frame prior tree) c = .ok result)
          tree.classes contributions ∧
        report = reportOf (frame prior tree) contributions := by
  simp only [generate, bind_eq_ok_iff, pure_eq_ok_iff, mapM_eq_ok_iff]
  constructor
  · rintro ⟨contributions, each, rfl⟩
    exact ⟨contributions, each, rfl⟩
  · rintro ⟨contributions, each, rfl⟩
    exact ⟨contributions, each, rfl⟩

theorem generate_eq_error_iff {s : Strategy} {prior : Option Component} {tree : Tree}
    {failure : Failure} :
    s.generate prior tree = .error failure ↔
      ∃ before c after, tree.classes = before ++ c :: after ∧
        (∀ earlier ∈ before, ∃ result, s.contribution (frame prior tree) earlier = .ok result) ∧
        s.contribution (frame prior tree) c = .error failure := by
  simp [generate, bind_eq_error_iff, mapM_eq_error_iff, pure, Except.pure]

/-- If a document is made, every class can make its contribution. -/
theorem contributions_of_generate {s : Strategy} {prior : Option Component} {tree : Tree}
    {report : Report} (run : s.generate prior tree = .ok report) :
    ∀ c ∈ tree.classes, ∃ result, s.contribution (frame prior tree) c = .ok result := by
  rcases generate_eq_ok_iff.mp run with ⟨contributions, each, _⟩
  exact exists_forall₂_iff.mp ⟨contributions, each⟩

theorem services_of_contributions {s : Strategy} {component : Component}
    {classes : List Source.Class} {contributions : List (Option (Noted Service))}
    (each : List.Forall₂ (fun c result => s.contribution component c = .ok result)
      classes contributions) :
    List.Forall₂ (fun c noted => s.service component c = .ok noted)
      (classes.filter s.isServiceClass) (contributions.filterMap id) := by
  induction each with
  | nil => exact .nil
  | @cons c result rest results step _ ih =>
      rcases contribution_eq_ok_iff.mp step with
        ⟨eligible, rfl⟩ | ⟨eligible, service, built, rfl⟩
      · simpa [isServiceClass, eligible] using ih
      · rw [List.filter_cons_of_pos (by simp [isServiceClass, eligible])]
        exact .cons built ih

/-- A report is put together from what the classes that are services give, in their order. -/
theorem parts_of_generate {s : Strategy} {prior : Option Component} {tree : Tree}
    {report : Report} (run : s.generate prior tree = .ok report) :
    ∃ parts,
      List.Forall₂ (fun c noted => s.service (frame prior tree) c = .ok noted)
        (s.serviceClasses tree) parts ∧
      report.component = { frame prior tree with services := parts.map (·.value) } ∧
      report.warnings = parts.flatMap (·.warnings) := by
  rcases generate_eq_ok_iff.mp run with ⟨contributions, each, rfl⟩
  exact ⟨contributions.filterMap id, services_of_contributions each, rfl, rfl⟩

/-- The services of a document are those of the classes that are services, in their order. -/
theorem services_of_generate {s : Strategy} {prior : Option Component} {tree : Tree}
    {report : Report} (run : s.generate prior tree = .ok report) :
    List.Forall₂
      (fun c service => ∃ noted, s.service (frame prior tree) c = .ok noted ∧
        service = noted.value)
      (s.serviceClasses tree) report.component.services := by
  rcases parts_of_generate run with ⟨parts, each, component, _⟩
  rw [component, List.forall₂_map_right_iff]
  exact each.imp fun c noted built => ⟨noted, built, rfl⟩

/-! ## What a contribution depends on -/

theorem fillAutoDeploy?_congr {a b : Component} (same : a.id = b.id) (s : Strategy)
    (c : Source.Class) (node : AutoDeploy) :
    s.fillAutoDeploy? a c node = s.fillAutoDeploy? b c node := by
  rcases s with ⟨kind, category⟩
  cases kind <;>
    simp [fillAutoDeploy?, Annotated.fillAutoDeploy?, Tagged.fillAutoDeploy, categoryFor, same]

/-- Of the component as a whole, a class looks at the name only. -/
theorem contribution_congr {a b : Component} (same : a.id = b.id) (s : Strategy)
    (c : Source.Class) : s.contribution a c = s.contribution b c := by
  have service : s.service a c = s.service b c := by
    simp only [Strategy.service, fillAutoDeploy?_congr same]
  simp only [contribution, service]

/-- A class that can make its contribution can make it for any component. -/
theorem contribution_ok {a : Component} {s : Strategy} {c : Source.Class}
    {result : Option (Noted Service)} (step : s.contribution a c = .ok result) (b : Component) :
    ∃ result, s.contribution b c = .ok result := by
  rcases contribution_eq_ok_iff.mp step with ⟨eligible, rfl⟩ | ⟨eligible, service, built, rfl⟩
  · exact ⟨none, contribution_eq_ok_iff.mpr (.inl ⟨eligible, rfl⟩)⟩
  · rcases service_eq_ok_iff.mp built with ⟨described, operations, describes, run, rfl⟩
    have again : s.service b c = .ok (s.assembled b c described operations) :=
      service_eq_ok_iff.mpr ⟨described, operations, describes, run, rfl⟩
    exact ⟨_, contribution_eq_ok_iff.mpr (.inr ⟨eligible, _, again, rfl⟩)⟩

/-! ## What a run depends on -/

/-- Of an earlier document, a run looks at what is known from it of the component only. -/
theorem generate_congr {prior other : Option Component} {tree : Tree}
    (same : frame prior tree = frame other tree) (s : Strategy) :
    s.generate prior tree = s.generate other tree := by
  simp only [generate, same]

/-- A tree of which a document can be made has one whatever the earlier document is. -/
theorem generate_ok {s : Strategy} {prior : Option Component} {tree : Tree} {report : Report}
    (run : s.generate prior tree = .ok report) (other : Option Component) :
    ∃ report, s.generate other tree = .ok report := by
  have again : ∀ c ∈ tree.classes, ∃ result, s.contribution (frame other tree) c = .ok result := by
    intro c member
    rcases contributions_of_generate run c member with ⟨result, step⟩
    exact contribution_ok step (frame other tree)
  rcases exists_forall₂_iff.mpr again with ⟨others, each⟩
  exact ⟨_, generate_eq_ok_iff.mpr ⟨others, each, rfl⟩⟩

end Strategy

end ComponentGen.Extraction

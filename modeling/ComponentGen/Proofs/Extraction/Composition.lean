import ComponentGen.Proofs.Extraction.Runs
import ComponentGen.Proofs.Source.Tree

/-!
# Documents of single classes

A document is put together from the documents that its classes would have alone.  What the tree
says about the component as a whole differs between the runs, but it never reaches a service: of
the component a service takes the name only, and the name comes from the earlier document.
-/

namespace ComponentGen.Extraction

open Document Outcome Source

/-! ## Classes that the component itself names -/

/-- What a document has for the class that implements an interface: of the names of the classes
that list it, the least one, and what was known before if none does. -/
inductive ImplementingName (tree : Tree) (type : String) (known : Option String) :
    Option String → Prop where
  | found {c : Source.Class} (member : c ∈ tree.classes) (listed : type ∈ c.interfaces)
      (least : ∀ other ∈ tree.classes, type ∈ other.interfaces →
        c.qualifiedName ≤ other.qualifiedName) :
      ImplementingName tree type known (some c.qualifiedName)
  | kept (unlisted : ∀ c ∈ tree.classes, type ∉ c.interfaces) :
      ImplementingName tree type known known

theorem implementingName_implementingName (tree : Tree) (type : String) (known : Option String) :
    ImplementingName tree type known (implementingName tree type known) := by
  unfold implementingName
  cases found : tree.implementing? type with
  | none =>
      rw [Option.map_none, Option.none_or]
      exact .kept (Tree.implementing?_eq_none_iff.mp found)
  | some c =>
      rcases Tree.le_of_implementing? found with ⟨member, listed, least⟩
      exact .found member listed least

/-- Only classes that list the interface matter. -/
theorem implementingName_only {tree : Tree} {keeps : Source.Class → Bool} {type : String}
    (silent : ∀ c ∈ tree.classes, keeps c = false → type ∉ c.interfaces) (known : Option String) :
    implementingName (tree.only keeps) type known = implementingName tree type known := by
  rw [implementingName, implementingName, Tree.implementing?_only silent]

/-- What a document has for the two classes that the component itself names, after what was known
of them before. -/
structure NamesOwnClasses (prior : Option Component) (tree : Tree) (component : Component) :
    Prop where
  bootstrapClass : ImplementingName tree "com.adobe.idp.dsc.component.Bootstrap"
    (prior.bind (·.bootstrapClass)) component.bootstrapClass
  lifecycleClass : ImplementingName tree "com.adobe.idp.dsc.component.LifeCycle"
    (prior.bind (·.lifecycleClass)) component.lifecycleClass

/-! ## Single classes -/

/-- The tree of a single class. -/
def single (c : Source.Class) : Tree := Tree.ofClasses [c]

@[simp]
theorem classes_single (c : Source.Class) : (single c).classes = [c] := by
  simp [single, Tree.ofClasses]

namespace Strategy

/-- The name of a component comes from the earlier document alone. -/
@[simp]
theorem frame_id (prior : Option Component) (tree : Tree) :
    (frame prior tree).id = prior.bind (·.id) := by
  cases prior <;> rfl

theorem bootstrapClass_frame (prior : Option Component) (tree : Tree) :
    (frame prior tree).bootstrapClass =
      implementingName tree bootstrapInterface (prior.bind (·.bootstrapClass)) := by
  cases prior <;> rfl

theorem lifecycleClass_frame (prior : Option Component) (tree : Tree) :
    (frame prior tree).lifecycleClass =
      implementingName tree lifecycleInterface (prior.bind (·.lifecycleClass)) := by
  cases prior <;> rfl

theorem namesOwnClasses_of_generate {s : Strategy} {prior : Option Component} {tree : Tree}
    {report : Report} (run : s.generate prior tree = .ok report) :
    NamesOwnClasses prior tree report.component := by
  rcases parts_of_generate run with ⟨parts, _, component, _⟩
  rw [component]
  constructor
  case bootstrapClass =>
    simp only [bootstrapClass_frame]
    exact implementingName_implementingName tree bootstrapInterface _
  case lifecycleClass =>
    simp only [lifecycleClass_frame]
    exact implementingName_implementingName tree lifecycleInterface _

/-- A class contributes the same in every tree. -/
theorem contribution_frame (s : Strategy) (prior : Option Component) (a b : Tree)
    (c : Source.Class) :
    s.contribution (frame prior a) c = s.contribution (frame prior b) c := by
  apply contribution_congr
  simp

theorem generate_single_eq_ok_iff {s : Strategy} {prior : Option Component} {c : Source.Class}
    {report : Report} {tree : Tree} :
    s.generate prior (single c) = .ok report ↔
      ∃ result, s.contribution (frame prior tree) c = .ok result ∧
        report = reportOf (frame prior (single c)) [result] := by
  rw [generate_eq_ok_iff, classes_single]
  constructor
  · rintro ⟨results, each, rfl⟩
    rcases List.forall₂_cons_left_iff.mp each with ⟨result, others, step, none, rfl⟩
    cases none
    rw [contribution_frame s prior (single c) tree] at step
    exact ⟨result, step, rfl⟩
  · rintro ⟨result, step, rfl⟩
    rw [contribution_frame s prior tree (single c)] at step
    exact ⟨[result], .cons step .nil, rfl⟩

theorem generate_single_eq_error_iff {s : Strategy} {prior : Option Component}
    {c : Source.Class} {failure : Failure} {tree : Tree} :
    s.generate prior (single c) = .error failure ↔
      s.contribution (frame prior tree) c = .error failure := by
  rw [generate_eq_error_iff, classes_single, contribution_frame s prior tree (single c)]
  constructor
  · rintro ⟨before, found, after, split, _, failed⟩
    cases before with
    | nil =>
        cases split
        exact failed
    | cons earlier before => simp at split
  · intro failed
    exact ⟨[], c, [], rfl, by simp, failed⟩

theorem services_reportOf_cons (component alone : Component)
    (result : Option (Noted Service)) (results : List (Option (Noted Service))) :
    (reportOf component (result :: results)).component.services =
      (reportOf alone [result]).component.services ++
        (reportOf component results).component.services := by
  cases result <;> rfl

theorem warnings_reportOf_cons (component alone : Component)
    (result : Option (Noted Service)) (results : List (Option (Noted Service))) :
    (reportOf component (result :: results)).warnings =
      (reportOf alone [result]).warnings ++ (reportOf component results).warnings := by
  cases result <;> simp [reportOf]

/-- What classes report alone is what they contribute to the document of a tree, in the same
order. -/
theorem contributions_of_singles {s : Strategy} {prior : Option Component}
    {classes : List Source.Class} {reports : List Report}
    (each : List.Forall₂ (fun c report => s.generate prior (single c) = .ok report)
      classes reports) (tree : Tree) :
    ∃ results,
      List.Forall₂ (fun c result => s.contribution (frame prior tree) c = .ok result)
        classes results ∧
      (reportOf (frame prior tree) results).component.services =
        reports.flatMap (·.component.services) ∧
      (reportOf (frame prior tree) results).warnings = reports.flatMap (·.warnings) := by
  induction each with
  | nil => exact ⟨[], .nil, rfl, rfl⟩
  | @cons c report classes reports alone _ ih =>
      rcases ih with ⟨results, steps, services, warnings⟩
      rcases generate_single_eq_ok_iff.mp alone with ⟨result, step, rfl⟩
      refine ⟨result :: results, .cons step steps, ?_, ?_⟩
      · rw [services_reportOf_cons _ (frame prior (single c)), services, List.flatMap_cons]
      · rw [warnings_reportOf_cons _ (frame prior (single c)), warnings, List.flatMap_cons]

theorem generate_of_singles {s : Strategy} {prior : Option Component} {tree : Tree}
    {reports : List Report}
    (each : List.Forall₂ (fun c report => s.generate prior (single c) = .ok report)
      tree.classes reports) :
    ∃ report, s.generate prior tree = .ok report ∧
      report.component.services = reports.flatMap (·.component.services) ∧
      report.warnings = reports.flatMap (·.warnings) := by
  rcases contributions_of_singles each tree with ⟨results, steps, services, warnings⟩
  exact ⟨_, generate_eq_ok_iff.mpr ⟨results, steps, rfl⟩, services, warnings⟩

/-- Every class of a tree of which a document is made has a document alone. -/
theorem singles_of_generate {s : Strategy} {prior : Option Component} {tree : Tree}
    {report : Report} (run : s.generate prior tree = .ok report) :
    ∃ reports, List.Forall₂ (fun c report => s.generate prior (single c) = .ok report)
      tree.classes reports := by
  apply exists_forall₂_iff.mpr
  intro c member
  rcases contributions_of_generate run c member with ⟨result, step⟩
  exact ⟨_, generate_single_eq_ok_iff.mpr ⟨result, step, rfl⟩⟩

/-- A document fails to be made if a class fails alone, with the failure of the first one. -/
theorem generate_of_single_error {s : Strategy} {prior : Option Component} {tree : Tree}
    {before after : List Source.Class} {c : Source.Class} {failure : Failure}
    (split : tree.classes = before ++ c :: after)
    (passed : ∀ earlier ∈ before, ∃ report, s.generate prior (single earlier) = .ok report)
    (failed : s.generate prior (single c) = .error failure) :
    s.generate prior tree = .error failure := by
  refine generate_eq_error_iff.mpr
    ⟨before, c, after, split, ?_, generate_single_eq_error_iff.mp failed⟩
  intro earlier member
  rcases passed earlier member with ⟨report, alone⟩
  rcases generate_single_eq_ok_iff.mp alone with ⟨result, step, _⟩
  exact ⟨result, step⟩

/-- Making documents is compositional.  If the classes of a tree have documents alone, the tree
has one, and its services and warnings are theirs, one after the other; every document of a tree
comes about in this way; and the failure for a tree is that of the first class that fails
alone. -/
theorem generate_compositional (s : Strategy) (prior : Option Component) (tree : Tree) :
    (∀ reports,
      List.Forall₂ (fun c report => s.generate prior (single c) = .ok report)
        tree.classes reports →
      ∃ report, s.generate prior tree = .ok report ∧
        report.component.services = reports.flatMap (·.component.services) ∧
        report.warnings = reports.flatMap (·.warnings)) ∧
    (∀ report, s.generate prior tree = .ok report →
      ∃ reports,
        List.Forall₂ (fun c report => s.generate prior (single c) = .ok report)
          tree.classes reports ∧
        report.component.services = reports.flatMap (·.component.services) ∧
        report.warnings = reports.flatMap (·.warnings)) ∧
    ∀ before c after failure, tree.classes = before ++ c :: after →
      (∀ earlier ∈ before, ∃ report, s.generate prior (single earlier) = .ok report) →
      s.generate prior (single c) = .error failure →
      s.generate prior tree = .error failure := by
  refine ⟨fun reports each => generate_of_singles each, ?_, ?_⟩
  · intro report run
    rcases singles_of_generate run with ⟨reports, each⟩
    rcases generate_of_singles each with ⟨_, again, services, warnings⟩
    cases run.symm.trans again
    exact ⟨reports, each, services, warnings⟩
  · intro before c after failure split passed failed
    exact generate_of_single_error split passed failed

end Strategy

end ComponentGen.Extraction

import ComponentGen.Proofs.Extraction.Composition
import ComponentGen.Proofs.Extraction.Members
import ComponentGen.Proofs.Source.Tree

/-!
# When no document is made

A run fails at a class for one of three reasons: the class is marked as a service and cannot be
one, its factory method cannot make instances, or an operation wants a name that is taken.  They
are looked for in this order, and only in classes that the strategy considers; the first class
with one of them ends the run.  Whatever else is wrong with the metadata ends no run.
-/

namespace ComponentGen.Extraction

open Document Outcome Source

/-! ## Classes that can be services, and members that can make them -/

/-- A class that can be a service. -/
structure IsEligible (c : Source.Class) : Prop where
  isPublic : c.visibility = .isPublic
  notAbstract : c.isAbstract = false
  notInterface : c.isInterface = false
  notThrowable : "java.lang.Throwable" ∉ c.qualifiedName :: c.supertypes ++ c.interfaces

/-- A class is of the types that it lists and of its own. -/
theorem isA_iff {c : Source.Class} {type : String} :
    c.isA type = true ↔ type ∈ c.qualifiedName :: c.supertypes ++ c.interfaces := by
  rw [List.cons_append, List.mem_cons, List.mem_append, eq_comm (a := type)]
  simp only [Class.isA, Class.implementsType, Bool.or_eq_true, beq_iff_eq, List.contains_iff_mem,
    or_assoc]

theorem ineligibility?_eq_none_iff {c : Source.Class} :
    c.ineligibility? = none ↔ IsEligible c := by
  have throwable : c.isA throwableType = false ↔
      "java.lang.Throwable" ∉ c.qualifiedName :: c.supertypes ++ c.interfaces := by
    rw [← Bool.not_eq_true]
    exact not_congr isA_iff
  constructor
  · intro noReason
    unfold Class.ineligibility? at noReason
    constructor
    case notThrowable =>
      rw [← throwable]
      simp_all [ite_eq_iff]
    all_goals simp_all [Class.isPublic, ite_eq_iff]
  · intro eligible
    simp [Class.ineligibility?, Class.isPublic, eligible.isPublic, eligible.notAbstract,
      eligible.notInterface, throwable.mpr eligible.notThrowable]

/-- A member that can make the instances of a service. -/
structure CanMakeInstances (m : Member) : Prop where
  isPublic : m.visibility = .isPublic
  isStatic : m.isStatic = true
  notAbstract : m.isAbstract = false
  notConstructor : m.isConstructor = false
  notAccessor : m.isAccessor = false
  notMutator : m.isMutator = false

theorem factoryViolation?_eq_none_iff {m : Member} :
    factoryViolation? m = none ↔ CanMakeInstances m := by
  constructor
  · intro noReason
    unfold factoryViolation? at noReason
    constructor
    all_goals simp_all [Member.isPublic, ite_eq_iff]
  · intro able
    simp [factoryViolation?, Member.isPublic, able.isPublic, able.isStatic, able.notAbstract,
      able.notConstructor, able.notAccessor, able.notMutator]

namespace Strategy

/-- Whether a strategy looks into a class at all: if it is marked as a service, or else if it can
be one. -/
def considers (s : Strategy) (c : Source.Class) : Bool :=
  match s.kind with
  | .annotations => c.isAnnotatedWith serviceAnnotation
  | .doclets => c.ineligibility?.isNone

theorem isService_eq (s : Strategy) (c : Source.Class) :
    s.isService c =
      if s.considers c then
        match c.ineligibility? with
        | some reason => .error (.ineligible c.qualifiedName reason)
        | none => .ok true
      else .ok false := by
  rcases s with ⟨kind, category⟩
  cases kind with
  | annotations => rfl
  | doclets => cases found : c.ineligibility? <;> simp [isService, Tagged.isService, considers, found]

theorem isService_of_not_considers {s : Strategy} {c : Source.Class}
    (passed : s.considers c = false) : s.isService c = .ok false := by
  rw [isService_eq, passed]
  rfl

theorem isService_eq_true_iff {s : Strategy} {c : Source.Class} :
    s.isService c = .ok true ↔ s.considers c = true ∧ IsEligible c := by
  rw [isService_eq, ← ineligibility?_eq_none_iff]
  cases s.considers c with
  | false => simp
  | true => cases c.ineligibility? <;> simp

theorem isService_eq_error_iff {s : Strategy} {c : Source.Class} {failure : Failure} :
    s.isService c = .error failure ↔
      s.considers c = true ∧ ∃ reason, c.ineligibility? = some reason ∧
        failure = .ineligible c.qualifiedName reason := by
  rw [isService_eq]
  cases s.considers c with
  | false => simp
  | true => cases c.ineligibility? <;> simp [eq_comm]

/-- A class that a strategy for tags considers can be a service. -/
theorem isEligible_of_considers {s : Strategy} {c : Source.Class} (tags : s.kind = .doclets)
    (considered : s.considers c = true) : IsEligible c := by
  rw [considers, tags] at considered
  exact ineligibility?_eq_none_iff.mp (Option.isNone_iff_eq_none.mp considered)

end Strategy

/-! ## Failures of one class -/

/-- The operation of a member wants a name that was given to an operation before it. -/
def WantsTakenName (s : Strategy) (c : Source.Class) (m : Member) : Prop :=
  ∃ front back given name, s.operationMembers c = front ++ m :: back ∧
    nameOperations c.qualifiedName [] (front.map fun m => (m, s.suggestion m)) = .ok given ∧
    Wants (givenNames given) m (s.suggestion m) name ∧ name ∈ givenNames given

/-- The rule for the failure of a class. -/
inductive Fails (s : Strategy) (c : Source.Class) : Failure → Prop where
  | ineligible {reason : Ineligibility} (considered : s.considers c = true)
      (found : c.ineligibility? = some reason) : Fails s c (.ineligible c.qualifiedName reason)
  | factory {m : Member} {reason : FactoryViolation} (considered : s.considers c = true)
      (eligible : IsEligible c) (first : (s.factoryMembers c).head? = some m)
      (found : factoryViolation? m = some reason) :
      Fails s c (.invalidFactory m.name c.qualifiedName reason)
  | names {m : Member} (considered : s.considers c = true) (eligible : IsEligible c)
      (able : ∀ factory, (s.factoryMembers c).head? = some factory → CanMakeInstances factory)
      (taken : WantsTakenName s c m) : Fails s c (.ambiguousName m.name c.qualifiedName)

theorem factoryMethod_eq_error_iff {c : Source.Class} {candidates : List Member}
    {failure : Failure} :
    factoryMethod c candidates = .error failure ↔
      ∃ m reason, candidates.head? = some m ∧ factoryViolation? m = some reason ∧
        failure = .invalidFactory m.name c.qualifiedName reason := by
  cases candidates with
  | nil => simp [factoryMethod]
  | cons factory others =>
      cases found : factoryViolation? factory with
      | none => simp [factoryMethod, found]
      | some reason => simp [factoryMethod, found, eq_comm]

namespace Strategy

/-- Describing a class fails exactly if its factory method cannot be used. -/
theorem fillService_eq_error_iff {s : Strategy} {c : Source.Class} {node : Service}
    {failure : Failure} :
    s.fillService c node = .error failure ↔
      factoryMethod c (s.factoryMembers c) = .error failure := by
  rcases s with ⟨kind, category⟩
  cases kind with
  | annotations =>
      simp [fillService, Annotated.fillService, bind_eq_error_iff, pure, Except.pure]
  | doclets => simp [fillService, Tagged.fillService, bind_eq_error_iff, pure, Except.pure]

theorem exists_fillService_iff {s : Strategy} {c : Source.Class} {node : Service} :
    (∃ described, s.fillService c node = .ok described) ↔
      ∀ factory, (s.factoryMembers c).head? = some factory → CanMakeInstances factory := by
  constructor
  · rintro ⟨described, describes⟩ factory first
    by_contra unable
    rw [← factoryViolation?_eq_none_iff, ← ne_eq, Option.ne_none_iff_exists'] at unable
    rcases unable with ⟨reason, found⟩
    have failed : s.fillService c node =
        .error (.invalidFactory factory.name c.qualifiedName reason) :=
      fillService_eq_error_iff.mpr
        (factoryMethod_eq_error_iff.mpr ⟨factory, reason, first, found, rfl⟩)
    rw [describes] at failed
    cases failed
  · intro able
    cases result : s.fillService c node with
    | ok described => exact ⟨described, rfl⟩
    | error failure =>
        rcases factoryMethod_eq_error_iff.mp (fillService_eq_error_iff.mp result) with
          ⟨m, reason, first, found, _⟩
        rw [factoryViolation?_eq_none_iff.mpr (able m first)] at found
        cases found

theorem operations_eq_error_iff {s : Strategy} {c : Source.Class} {existing : List String}
    {members : List Member} {failure : Failure} :
    s.operations c existing members = .error failure ↔
      nameOperations c.qualifiedName existing (members.map fun m => (m, s.suggestion m)) =
        .error failure := by
  rw [← s.operations_naming c existing members]
  cases s.operations c existing members <;> simp [Except.map]

/-- Making operations fails exactly at a member that wants a taken name. -/
theorem operationMembers_eq_error_iff {s : Strategy} {c : Source.Class} {failure : Failure} :
    s.operations c [] (s.operationMembers c) = .error failure ↔
      ∃ m, WantsTakenName s c m ∧ failure = .ambiguousName m.name c.qualifiedName := by
  rw [operations_eq_error_iff, nameOperations_eq_error_iff]
  constructor
  · rintro ⟨front, m, suggested, back, given, split, run, failed⟩
    rcases List.map_eq_append_iff.mp split with ⟨before, rest, members, rfl, tail⟩
    rcases List.map_eq_cons_iff.mp tail with ⟨member, after, rfl, same, rfl⟩
    cases same
    rcases nameOperation_eq_error_iff.mp failed with ⟨taken, rfl⟩
    exact ⟨m, ⟨before, after, given, _, members, run, wants_iff.mpr rfl, by simpa using taken⟩, rfl⟩
  · rintro ⟨m, ⟨before, after, given, name, members, run, wants, taken⟩, rfl⟩
    rw [wants_iff] at wants
    subst name
    refine ⟨_, m, s.suggestion m, after.map fun m => (m, s.suggestion m), given, ?_, run, ?_⟩
    · rw [members, List.map_append, List.map_cons]
    · exact nameOperation_eq_error_iff.mpr ⟨by simpa using taken, rfl⟩

end Strategy

/-- A class fails as the rule says. -/
theorem contribution_eq_error_iff_fails {s : Strategy} {component : Component} {c : Source.Class}
    {failure : Failure} :
    s.contribution component c = .error failure ↔ Fails s c failure := by
  rw [Strategy.contribution_eq_error_iff, Strategy.isService_eq_error_iff,
    Strategy.isService_eq_true_iff, Strategy.service_eq_error_iff,
    Strategy.fillService_eq_error_iff, factoryMethod_eq_error_iff,
    Strategy.exists_fillService_iff, Strategy.operationMembers_eq_error_iff]
  constructor
  · rintro (⟨considered, reason, found, rfl⟩ |
      ⟨⟨considered, eligible⟩, ⟨m, reason, first, broken, rfl⟩ | ⟨able, m, taken, rfl⟩⟩)
    · exact .ineligible considered found
    · exact .factory considered eligible first broken
    · exact .names considered eligible able taken
  · intro fails
    cases fails with
    | ineligible considered found => exact .inl ⟨considered, _, found, rfl⟩
    | factory considered eligible first broken =>
        exact .inr ⟨⟨considered, eligible⟩, .inl ⟨_, _, first, broken, rfl⟩⟩
    | names considered eligible able taken =>
        exact .inr ⟨⟨considered, eligible⟩, .inr ⟨able, _, taken, rfl⟩⟩

theorem exists_contribution_iff {s : Strategy} {component : Component} {c : Source.Class} :
    (∃ result, s.contribution component c = .ok result) ↔ ∀ failure, ¬ Fails s c failure := by
  simp only [← @contribution_eq_error_iff_fails s component c]
  cases s.contribution component c <;> simp

/-- What can be wrong with a class that a strategy considers. -/
inductive HasFault (s : Strategy) (c : Source.Class) : Prop where
  | ineligible (marked : s.kind = .annotations) (unfit : ¬ IsEligible c)
  | factory {m : Member} (first : (s.factoryMembers c).head? = some m)
      (unable : ¬ CanMakeInstances m)
  | names {m : Member} (taken : WantsTakenName s c m)

/-- A class fails exactly if it is considered and something is wrong with it. -/
theorem exists_fails_iff {s : Strategy} {c : Source.Class} :
    (∃ failure, Fails s c failure) ↔ s.considers c = true ∧ HasFault s c := by
  constructor
  · rintro ⟨failure, fails⟩
    cases fails with
    | @ineligible reason considered found =>
        have unfit : ¬ IsEligible c := by
          rw [← ineligibility?_eq_none_iff, found]
          exact Option.some_ne_none reason
        cases kind : s.kind with
        | annotations => exact ⟨considered, .ineligible kind unfit⟩
        | doclets => exact absurd (Strategy.isEligible_of_considers kind considered) unfit
    | @factory m reason considered eligible first broken =>
        have unable : ¬ CanMakeInstances m := by
          rw [← factoryViolation?_eq_none_iff, broken]
          exact Option.some_ne_none reason
        exact ⟨considered, .factory first unable⟩
    | names considered eligible able taken => exact ⟨considered, .names taken⟩
  · rintro ⟨considered, fault⟩
    cases found : c.ineligibility? with
    | some reason => exact ⟨_, .ineligible considered found⟩
    | none =>
        have eligible := ineligibility?_eq_none_iff.mp found
        by_cases able : ∀ m, (s.factoryMembers c).head? = some m → CanMakeInstances m
        · cases fault with
          | ineligible _ unfit => exact absurd eligible unfit
          | factory first unable => exact absurd (able _ first) unable
          | names taken => exact ⟨_, .names considered eligible able taken⟩
        · simp only [not_forall, ← factoryViolation?_eq_none_iff] at able
          rcases able with ⟨m, first, broken⟩
          rcases Option.ne_none_iff_exists'.mp broken with ⟨reason, found⟩
          exact ⟨_, .factory considered eligible first found⟩

/-! ## Failures of a run -/

/-- A run fails with the failure of the first class that has one. -/
theorem generate_eq_error_iff_fails {s : Strategy} {prior : Option Component} {tree : Tree}
    {failure : Failure} :
    s.generate prior tree = .error failure ↔
      ∃ before c after, tree.classes = before ++ c :: after ∧
        (∀ earlier ∈ before, ∀ other, ¬ Fails s earlier other) ∧ Fails s c failure := by
  simp only [Strategy.generate_eq_error_iff, exists_contribution_iff,
    contribution_eq_error_iff_fails]

theorem exists_generate_error_iff {s : Strategy} {prior : Option Component} {tree : Tree} :
    (∃ failure, s.generate prior tree = .error failure) ↔
      ∃ c ∈ tree.classes, ∃ failure, Fails s c failure := by
  constructor
  · rintro ⟨failure, failed⟩
    rcases generate_eq_error_iff_fails.mp failed with ⟨before, c, after, split, _, fails⟩
    exact ⟨c, by simp [split], failure, fails⟩
  · rintro ⟨c, member, failure, fails⟩
    cases result : s.generate prior tree with
    | error failure => exact ⟨failure, rfl⟩
    | ok report =>
        have made := Strategy.contributions_of_generate result c member
        exact absurd fails (exists_contribution_iff.mp made failure)

/-- No class that fails has a lesser name than the one that ends the run. -/
theorem le_of_generate_error {s : Strategy} {prior : Option Component} {tree : Tree}
    {failure : Failure} (failed : s.generate prior tree = .error failure) :
    ∃ c ∈ tree.classes, Fails s c failure ∧
      ∀ other ∈ tree.classes, (∃ failure, Fails s other failure) →
        c.qualifiedName ≤ other.qualifiedName := by
  rcases generate_eq_error_iff_fails.mp failed with ⟨before, c, after, split, passed, fails⟩
  refine ⟨c, by simp [split], fails, ?_⟩
  apply Tree.le_of_first split
  rintro earlier member ⟨other, fails⟩
  exact passed earlier member other fails

/-! ## What failures are about -/

/-- All that the failure of a class can be about: its name, whether and why it cannot be a
service, the first of its factory methods, and the names, parameters and suggestions of its
operations. -/
structure Grounds where
  className : String
  considered : Bool
  ineligibility : Option Ineligibility
  factory : Option (String × Option FactoryViolation)
  operations : List (String × List Source.Parameter × Option String)

namespace Strategy

/-- What the name of an operation is made from. -/
def namingGrounds (s : Strategy) (m : Member) : String × List Source.Parameter × Option String :=
  (m.name, m.parameters, s.suggestion m)

/-- What the failure of a class can be about. -/
def grounds (s : Strategy) (c : Source.Class) : Grounds where
  className := c.qualifiedName
  considered := s.considers c
  ineligibility := c.ineligibility?
  factory := (s.factoryMembers c).head?.map fun m => (m.name, factoryViolation? m)
  operations := (s.operationMembers c).map s.namingGrounds

end Strategy

theorem nameOperation_congr {existing : List String} {className : String} {m other : Member}
    {suggested : Option String} (name : m.name = other.name)
    (parameters : m.parameters = other.parameters) :
    nameOperation existing className m suggested =
      nameOperation existing className other suggested := by
  have synthesized : synthesizedName m = synthesizedName other := by
    rw [synthesizedName, synthesizedName, name, parameters]
  have candidate : candidateName existing m suggested = candidateName existing other suggested := by
    rw [candidateName, candidateName, synthesized, name]
  rw [nameOperation, nameOperation, candidate, name]

theorem nameOperations_congr {s : Strategy} {className : String} {existing : List String}
    {members others : List Member}
    (same : members.map s.namingGrounds = others.map s.namingGrounds) :
    nameOperations className existing (members.map fun m => (m, s.suggestion m)) =
      nameOperations className existing (others.map fun m => (m, s.suggestion m)) := by
  induction members generalizing existing others with
  | nil =>
      rw [List.map_nil, eq_comm, List.map_eq_nil_iff] at same
      rw [same]
  | cons m rest ih =>
      rw [List.map_cons, eq_comm, List.map_eq_cons_iff] at same
      rcases same with ⟨other, others, rfl, first, rest⟩
      simp only [Strategy.namingGrounds, Prod.mk.injEq] at first
      rcases first with ⟨name, parameters, suggestion⟩
      simp only [List.map_cons, nameOperations, suggestion, nameOperation_congr name parameters,
        ih rest.symm]

/-- Classes with the same grounds fail alike. -/
theorem Fails.of_grounds_eq {s : Strategy} {c other : Source.Class} {failure : Failure}
    (same : s.grounds c = s.grounds other) (fails : Fails s c failure) :
    Fails s other failure := by
  simp only [Strategy.grounds, Grounds.mk.injEq] at same
  rcases same with ⟨className, considered, ineligibility, factory, operations⟩
  have eligible_iff : IsEligible c ↔ IsEligible other := by
    rw [← ineligibility?_eq_none_iff, ← ineligibility?_eq_none_iff, ineligibility]
  cases fails with
  | ineligible taken found =>
      rw [considered] at taken
      rw [ineligibility] at found
      rw [className]
      exact .ineligible taken found
  | @factory m reason taken eligible first broken =>
      rw [considered] at taken
      rw [first, Option.map_some, eq_comm, Option.map_eq_some_iff] at factory
      rcases factory with ⟨m', first', sameFactory⟩
      rw [Prod.mk.injEq] at sameFactory
      rw [className, ← sameFactory.1]
      exact .factory taken (eligible_iff.mp eligible) first' (sameFactory.2.trans broken)
  | @names m taken eligible able wants =>
      rw [considered] at taken
      have ableToo : ∀ factory, (s.factoryMembers other).head? = some factory →
          CanMakeInstances factory := by
        intro m' first'
        rw [first', Option.map_some, Option.map_eq_some_iff] at factory
        rcases factory with ⟨m, first, sameFactory⟩
        rw [Prod.mk.injEq] at sameFactory
        rw [← factoryViolation?_eq_none_iff, ← sameFactory.2, factoryViolation?_eq_none_iff]
        exact able m first
      have failed : s.operations other [] (s.operationMembers other) =
          .error (.ambiguousName m.name c.qualifiedName) := by
        rw [Strategy.operations_eq_error_iff, ← nameOperations_congr operations, ← className,
          ← Strategy.operations_eq_error_iff, Strategy.operationMembers_eq_error_iff]
        exact ⟨m, wants, rfl⟩
      rcases Strategy.operationMembers_eq_error_iff.mp failed with ⟨m', wants', sameFailure⟩
      rw [sameFailure]
      exact .names taken (eligible_iff.mp eligible) ableToo wants'

theorem generate_error_of_grounds_eq {s : Strategy} {prior otherPrior : Option Component}
    {tree other : Tree} {failure : Failure}
    (same : tree.classes.map s.grounds = other.classes.map s.grounds)
    (failed : s.generate prior tree = .error failure) :
    s.generate otherPrior other = .error failure := by
  rcases generate_eq_error_iff_fails.mp failed with ⟨before, c, after, split, passed, fails⟩
  rw [split, List.map_append, List.map_cons, eq_comm, List.map_eq_append_iff] at same
  rcases same with ⟨before', rest', split', sameBefore, sameRest⟩
  rcases List.map_eq_cons_iff.mp sameRest with ⟨c', after', rfl, sameClass, _⟩
  refine generate_eq_error_iff_fails.mpr
    ⟨before', c', after', split', ?_, fails.of_grounds_eq sameClass.symm⟩
  intro earlier' member reason failsEarlier
  have listed : s.grounds earlier' ∈ before.map s.grounds := by
    rw [← sameBefore]
    exact List.mem_map_of_mem member
  rcases List.mem_map.mp listed with ⟨earlier, inBefore, sameEarlier⟩
  exact passed earlier inBefore reason (failsEarlier.of_grounds_eq sameEarlier.symm)

/-! ## Classes that are not considered -/

/-- What a report says apart from the two classes that the component itself names. -/
def Report.apartFromOwnClasses (r : Report) : Report :=
  { r with component := { r.component with bootstrapClass := none, lifecycleClass := none } }

/-- A class that is not considered contributes nothing. -/
theorem contribution_of_not_considers {s : Strategy} {component : Component} {c : Source.Class}
    (passed : s.considers c = false) : s.contribution component c = .ok none :=
  Strategy.contribution_eq_ok_iff.mpr
    (.inl ⟨Strategy.isService_of_not_considers passed, rfl⟩)

/-- A report shows the contributions only after those that are `none` were left out. -/
theorem map_reportOf_congr {a b : Except Failure (List (Option (Noted Service)))}
    (same : a.map (·.filterMap id) = b.map (·.filterMap id)) (component : Component) :
    a.map (Strategy.reportOf component) = b.map (Strategy.reportOf component) := by
  let report (parts : List (Noted Service)) : Report :=
    { component := { component with services := parts.map (·.value) }
      warnings := parts.flatMap (·.warnings) }
  have opened (results : Except Failure (List (Option (Noted Service)))) :
      results.map (Strategy.reportOf component) = (results.map (·.filterMap id)).map report := by
    cases results <;> rfl
  rw [opened, opened, same]

/-- The classes that are considered make the document, in the frame that the whole tree gives. -/
theorem generate_eq_map_considered (s : Strategy) (prior : Option Component) (tree : Tree) :
    s.generate prior tree =
      ((tree.only s.considers).classes.mapM
        (s.contribution (Strategy.frame prior (tree.only s.considers)))).map
          (Strategy.reportOf (Strategy.frame prior tree)) := by
  have sameContribution : s.contribution (Strategy.frame prior (tree.only s.considers)) =
      s.contribution (Strategy.frame prior tree) := by
    funext c
    exact s.contribution_frame prior (tree.only s.considers) tree c
  rw [Strategy.generate_eq_map, sameContribution, Tree.classes_only]
  apply map_reportOf_congr
  exact map_mapM_filter (fun c passed => contribution_of_not_considers passed) tree.classes

/-- Without the classes that are not considered, a run fails in the same way or makes the same
document, but for the classes that the component itself names. -/
theorem generate_only_considered (s : Strategy) (prior : Option Component) (tree : Tree) :
    (s.generate prior tree).map Report.apartFromOwnClasses =
      (s.generate prior (tree.only s.considers)).map Report.apartFromOwnClasses := by
  rw [generate_eq_map_considered, Strategy.generate_eq_map s prior (tree.only s.considers)]
  cases (tree.only s.considers).classes.mapM
      (s.contribution (Strategy.frame prior (tree.only s.considers))) with
  | error failure => rfl
  | ok results => rfl

/-- The classes that are not considered leave no trace at all if none of them lists one of the two
interfaces. -/
theorem generate_only_of_silent {s : Strategy} {tree : Tree} (prior : Option Component)
    (silent : ∀ c ∈ tree.classes, s.considers c = false →
      bootstrapInterface ∉ c.interfaces ∧ lifecycleInterface ∉ c.interfaces) :
    s.generate prior tree = s.generate prior (tree.only s.considers) := by
  have sameFrame : Strategy.frame prior (tree.only s.considers) = Strategy.frame prior tree := by
    have bootstrap (known : Option String) :
        implementingName (tree.only s.considers) bootstrapInterface known =
          implementingName tree bootstrapInterface known :=
      implementingName_only (fun c member passed => (silent c member passed).1) known
    have lifecycle (known : Option String) :
        implementingName (tree.only s.considers) lifecycleInterface known =
          implementingName tree lifecycleInterface known :=
      implementingName_only (fun c member passed => (silent c member passed).2) known
    rw [Strategy.frame, Strategy.frame, fillComponent, fillComponent, bootstrap, lifecycle]
  rw [generate_eq_map_considered, Strategy.generate_eq_map s prior (tree.only s.considers),
    sameFrame]

/-- The exact law of failures.  A run fails with the failure of the first class that has one,
which has the least name of all that fail; classes fail exactly if they are considered and
something is wrong with them, as the rule says; and a strategy for tags never calls a class
ineligible.  Classes that are not considered change nothing but the classes that the component
itself names, each of which is the least name of a class that lists its interface, or else what the
earlier document says; so a class that is not considered and lists neither interface leaves no
trace.  And no failure is about anything else than its grounds, so that neither versions, comments
of tags, request strategies nor further factory methods make a run fail. -/
theorem generate_fails_exactly (s : Strategy) (prior : Option Component) (tree : Tree) :
    (∀ failure, s.generate prior tree = .error failure ↔
      ∃ before c after, tree.classes = before ++ c :: after ∧
        (∀ earlier ∈ before, ∀ other, ¬ Fails s earlier other) ∧ Fails s c failure) ∧
    (∀ failure, s.generate prior tree = .error failure →
      ∃ c ∈ tree.classes, Fails s c failure ∧
        ∀ other ∈ tree.classes, (∃ failure, Fails s other failure) →
          c.qualifiedName ≤ other.qualifiedName) ∧
    ((∃ failure, s.generate prior tree = .error failure) ↔
      ∃ c ∈ tree.classes, s.considers c = true ∧ HasFault s c) ∧
    (s.kind = .doclets → ∀ className reason,
      s.generate prior tree ≠ .error (.ineligible className reason)) ∧
    (s.generate prior tree).map Report.apartFromOwnClasses =
      (s.generate prior (tree.only s.considers)).map Report.apartFromOwnClasses ∧
    (∀ report, s.generate prior tree = .ok report →
      NamesOwnClasses prior tree report.component) ∧
    ((∀ c ∈ tree.classes, s.considers c = false →
        "com.adobe.idp.dsc.component.Bootstrap" ∉ c.interfaces ∧
          "com.adobe.idp.dsc.component.LifeCycle" ∉ c.interfaces) →
      s.generate prior tree = s.generate prior (tree.only s.considers)) ∧
    ∀ otherPrior other, tree.classes.map s.grounds = other.classes.map s.grounds →
      ∀ failure, s.generate prior tree = .error failure ↔
        s.generate otherPrior other = .error failure := by
  refine ⟨fun failure => generate_eq_error_iff_fails, fun failure => le_of_generate_error, ?_, ?_,
    generate_only_considered s prior tree, fun report => Strategy.namesOwnClasses_of_generate,
    fun silent => generate_only_of_silent prior silent, ?_⟩
  · simp only [exists_generate_error_iff, exists_fails_iff]
  · intro tags className reason failed
    rcases generate_eq_error_iff_fails.mp failed with ⟨_, c, _, _, _, fails⟩
    cases fails with
    | ineligible considered found =>
        have eligible := Strategy.isEligible_of_considers tags considered
        rw [ineligibility?_eq_none_iff.mpr eligible] at found
        cases found
  · intro otherPrior other same failure
    constructor
    · exact generate_error_of_grounds_eq same
    · exact generate_error_of_grounds_eq same.symm

/-! ## A class that is not considered -/

/-- A class that starts its component and cannot be a service. -/
def starterClass : Source.Class where
  qualifiedName := "shop.Start"
  isAbstract := true
  interfaces := [bootstrapInterface]

/-- The tree of that class. -/
def starterTree : Tree where
  classes := [starterClass]
  ordered := by simp

/-- A class that is not considered may still be named by the component itself. -/
theorem not_forall_generate_only_considered :
    ¬ ∀ (s : Strategy) (prior : Option Component) (tree : Tree),
        s.generate prior tree = s.generate prior (tree.only s.considers) := by
  intro always
  have same := always { kind := .doclets } none starterTree
  have named : ({ kind := .doclets } : Strategy).generate none starterTree =
      .ok { component := { bootstrapClass := some "shop.Start" } } := by
    decide +kernel
  have unnamed : ({ kind := .doclets } : Strategy).generate none
      (starterTree.only (Strategy.considers { kind := .doclets })) = .ok { component := {} } := by
    decide +kernel
  rw [named, unnamed] at same
  exact absurd same (by decide)

end ComponentGen.Extraction

import ComponentGen.Proofs.Extraction.OperationNames
import ComponentGen.Proofs.Extraction.Runs

/-!
# Which methods operations call

An operation calls the method that is kept beside its name, or else the one of its own name.  So
it calls the method it was made from, unless it was given another name by its author before that
name was taken: then nothing is kept beside the new name, and it is the new name that is called.
-/

namespace ComponentGen.Extraction

open Document Outcome Source Text

/-- The rule for the method that the operation of a member calls, behind operations of the given
names.  `name` is the operation's own name, which the method has only where the author of the member
renamed it. -/
inductive Calls (earlier : List String) (m : Member) (suggested : Option String) (name : String) :
    String → Prop where
  | own (kept : m.name ∈ earlier ∨ Unsuggested suggested) : Calls earlier m suggested name m.name
  | renamed {text : String} (free : m.name ∉ earlier) (given : suggested = some text)
      (left : trim text ≠ "") (named : name = trim text) :
      Calls earlier m suggested name (trim text)

theorem calls_of_nameOperation {existing : List String} {className : String} {m : Member}
    {suggested : Option String} {named : OperationName}
    (step : nameOperation existing className m suggested = .ok named) :
    Calls existing m suggested named.name (named.method.getD named.name) := by
  rcases nameOperation_eq_ok_iff.mp step with ⟨_, rfl⟩
  by_cases taken : m.name ∈ existing
  · simpa [taken] using Calls.own (.inl taken)
  · have wants : Wants existing m suggested (candidateName existing m suggested) :=
      wants_iff.mpr rfl
    simp only [taken, if_false, Option.getD_none]
    generalize candidateName existing m suggested = name at wants ⊢
    cases wants with
    | suggestion given left => exact .renamed taken given left rfl
    | own unsuggested _ => exact .own (.inr unsuggested)
    | synthesized _ found => exact absurd found taken

/-- There is one operation for each member, which calls the method that the rule says. -/
theorem calls_of_operations {s : Strategy} {c : Source.Class} {members : List Member}
    {operations : List (Noted Operation)}
    (run : s.operations c [] members = .ok operations) :
    operations.length = members.length ∧
      ∀ i m o, members[i]? = some m → operations[i]? = some o →
        Calls ((operations.take i).map (·.value.name)) m (s.suggestion m) o.value.name
          o.value.dispatchMethod := by
  have named := s.operations_naming c [] members
  rw [run] at named
  rcases nameOperation_of_getElem? named.symm with ⟨lengthEq, each⟩
  refine ⟨by simpa using lengthEq, ?_⟩
  intro i m o memberEq operationEq
  have step := each i m (s.suggestion m) (operationNaming o) (by simp [memberEq])
    (by simp [operationEq])
  have earlier : (givenNames (operations.map operationNaming)).take i =
      (operations.take i).map (·.value.name) := by
    rw [givenNames, List.map_map, List.map_take]
    rfl
  rw [List.nil_append, earlier] at step
  exact calls_of_nameOperation step

/-! ## A document with a renamed method -/

/-- A class whose first method is renamed to the name of its second one. -/
def renamingClass : Source.Class where
  qualifiedName := "shop.Orders"
  members :=
    [{ name := "list", tags := [{ name := "operationName", value := "find" }] },
      { name := "find" }]

/-- The tree of that class. -/
def renamingTree : Tree where
  classes := [renamingClass]
  ordered := by simp

/-- The service made of that class. -/
def renamingService : Service where
  name := "Orders"
  implementationClass := "shop.Orders"
  autoDeploy := some { serviceId := "Orders" }
  operations :=
    [{ name := "find", title := "Find" },
      { name := "findWith", method := some "find", title := "Find with" }]

/-- The report on that tree. -/
def renamingReport : Report where
  component := { services := [renamingService] }

theorem generate_renamingTree :
    ({ kind := .doclets } : Strategy).generate none renamingTree = .ok renamingReport := by
  decide +kernel

/-! ## All documents -/

/-- Every operation of a document calls the method that it was made from. -/
def CallsOwnMethods (s : Strategy) (tree : Tree) (report : Report) : Prop :=
  List.Forall₂
    (fun c service =>
      List.Forall₂ (fun m (o : Operation) => o.dispatchMethod = m.name) (s.operationMembers c)
        service.operations)
    (s.serviceClasses tree) report.component.services

/-- An operation may call another method of its class: the one whose name its author gave to
it. -/
theorem not_forall_callsOwnMethods :
    ¬ ∀ (s : Strategy) (prior : Option Component) (tree : Tree) (report : Report),
        s.generate prior tree = .ok report → CallsOwnMethods s tree report := by
  intro always
  have calls := always { kind := .doclets } none renamingTree renamingReport generate_renamingTree
  have classes : ({ kind := .doclets } : Strategy).serviceClasses renamingTree =
      [renamingClass] := by
    rfl
  have members : ({ kind := .doclets } : Strategy).operationMembers renamingClass =
      renamingClass.members := by
    rfl
  rw [CallsOwnMethods, classes] at calls
  rcases calls with _ | ⟨operations, _⟩
  rw [members] at operations
  rcases operations with _ | ⟨first, _⟩
  exact absurd first (by decide)

/-- In every document that is made, the services are those of the service classes of the tree,
their operations are those of the operation members of the class, and each of them calls the
method that the rule says: the one it was made from, unless that has another name by its author,
which is then the name of the operation as well as of the method that is called. -/
theorem calls_of_generate {s : Strategy} {prior : Option Component} {tree : Tree}
    {report : Report} (run : s.generate prior tree = .ok report) :
    List.Forall₂
      (fun c service =>
        service.operations.length = (s.operationMembers c).length ∧
          ∀ i m o, (s.operationMembers c)[i]? = some m → service.operations[i]? = some o →
            Calls ((service.operations.take i).map (·.name)) m (s.suggestion m) o.name
              o.dispatchMethod)
      (s.serviceClasses tree) report.component.services := by
  refine (Strategy.services_of_generate run).imp ?_
  rintro c service ⟨noted, made, rfl⟩
  rcases Strategy.service_eq_ok_iff.mp made with ⟨described, operations, _, named, rfl⟩
  rcases calls_of_operations named with ⟨lengthEq, each⟩
  refine ⟨by simpa [Strategy.assembled] using lengthEq, ?_⟩
  intro i m o memberEq operationEq
  simp only [Strategy.assembled, List.getElem?_map, Option.map_eq_some_iff] at operationEq
  rcases operationEq with ⟨noted, operationEq, rfl⟩
  have calls := each i m noted memberEq operationEq
  simpa [Strategy.assembled, List.map_take, Function.comp_def] using calls

theorem calls_of_generate_renamingTree :
    ({ kind := .doclets } : Strategy).generate none renamingTree = .ok renamingReport ∧
      List.Forall₂
        (fun c service =>
          service.operations.length =
              (Strategy.operationMembers { kind := .doclets } c).length ∧
            ∀ i m o, (Strategy.operationMembers { kind := .doclets } c)[i]? = some m →
              service.operations[i]? = some o →
                Calls ((service.operations.take i).map (·.name)) m
                  (Strategy.suggestion { kind := .doclets } m) o.name o.dispatchMethod)
        (Strategy.serviceClasses { kind := .doclets } renamingTree)
        renamingReport.component.services :=
  ⟨generate_renamingTree, calls_of_generate generate_renamingTree⟩

end ComponentGen.Extraction

import ComponentGen.Extraction.Generation
import ComponentGen.Proofs.Outcome
import ComponentGen.Proofs.Text.Trim

/-!
# Distinct names for the operations of a service

The operations of a service are named one after the other.  A name depends on the member, on the
name that is suggested for its operation and on the names given before, so later members never
change it; and it is given only if it is free, so that no two operations share one.

The naming itself is taken apart from the other things that are said about an operation
(`nameOperations`), and both strategies are shown to name their operations in this way.
-/

namespace ComponentGen.Extraction

open Document Naming Outcome Source Text

/-! ## The name that an operation would like to have -/

/-- No name is suggested, or nothing is left of it without the blanks around it. -/
def Unsuggested (suggested : Option String) : Prop :=
  ∀ text, suggested = some text → trim text = ""

/-- The rule for the name of an operation, behind operations of the given names. -/
inductive Wants (earlier : List String) (m : Member) (suggested : Option String) :
    String → Prop where
  | suggestion {text : String} (given : suggested = some text) (kept : trim text ≠ "") :
      Wants earlier m suggested (trim text)
  | own (unsuggested : Unsuggested suggested) (free : m.name ∉ earlier) :
      Wants earlier m suggested m.name
  | synthesized (unsuggested : Unsuggested suggested) (taken : m.name ∈ earlier) :
      Wants earlier m suggested
        (m.name ++ "With" ++ String.join
          (m.parameters.map fun p => capitalize p.name ++ "As" ++ capitalize p.type.simple))

theorem unsuggested_iff (suggested : Option String) :
    Unsuggested suggested ↔ suggested.bind nonBlank? = none := by
  cases suggested with
  | none => simp [Unsuggested]
  | some text => simp [Unsuggested, nonBlank?_eq_none_iff]

theorem bind_nonBlank?_eq_some {suggested : Option String} {text : String}
    (given : suggested = some text) (kept : trim text ≠ "") :
    suggested.bind nonBlank? = some (trim text) := by
  rw [given, Option.bind_some, nonBlank?_eq_some_iff]
  exact ⟨kept, rfl⟩

/-- The rule gives one name, which is the one that is tried. -/
theorem wants_iff {earlier : List String} {m : Member} {suggested : Option String}
    {name : String} :
    Wants earlier m suggested name ↔ name = candidateName earlier m suggested := by
  constructor
  · intro wants
    cases wants with
    | suggestion given kept => simp [candidateName, bind_nonBlank?_eq_some given kept]
    | own unsuggested free =>
        simp [candidateName, (unsuggested_iff suggested).mp unsuggested, free]
    | synthesized unsuggested taken =>
        rw [candidateName, (unsuggested_iff suggested).mp unsuggested]
        exact (if_pos (by simpa using taken)).symm
  · rintro rfl
    cases tried : suggested.bind nonBlank? with
    | some text =>
        rcases Option.bind_eq_some_iff.mp tried with ⟨written, given, kept⟩
        rcases (nonBlank?_eq_some_iff written text).mp kept with ⟨left, rfl⟩
        have wants : Wants earlier m suggested (trim written) := .suggestion given left
        simpa [candidateName, tried] using wants
    | none =>
        have unsuggested := (unsuggested_iff suggested).mpr tried
        by_cases taken : m.name ∈ earlier
        · have wanted : candidateName earlier m suggested = synthesizedName m := by
            simp [candidateName, tried, taken]
          rw [wanted]
          exact .synthesized unsuggested taken
        · simpa [candidateName, tried, taken] using Wants.own unsuggested taken

/-! ## One operation -/

theorem nameOperation_eq_ok_iff {existing : List String} {className : String} {m : Member}
    {suggested : Option String} {named : OperationName} :
    nameOperation existing className m suggested = .ok named ↔
      candidateName existing m suggested ∉ existing ∧
        named =
          { name := candidateName existing m suggested
            method := if m.name ∈ existing then some m.name else none
            title := title (candidateName existing m suggested) } := by
  by_cases taken : candidateName existing m suggested ∈ existing
  · simp [nameOperation, taken]
  · simp [nameOperation, taken, eq_comm]

theorem nameOperation_eq_error_iff {existing : List String} {className : String} {m : Member}
    {suggested : Option String} {failure : Failure} :
    nameOperation existing className m suggested = .error failure ↔
      candidateName existing m suggested ∈ existing ∧
        failure = .ambiguousName m.name className := by
  by_cases taken : candidateName existing m suggested ∈ existing
  · simp [nameOperation, taken, eq_comm]
  · simp [nameOperation, taken]

/-! ## All operations of a service -/

/-- Names the operations of members one after the other.  A member comes with the name that is
suggested for its operation; `existing` are the names given before. -/
def nameOperations (className : String) (existing : List String) :
    List (Member × Option String) → Except Failure (List OperationName)
  | [] => .ok []
  | (m, suggested) :: rest => do
      let first ← nameOperation existing className m suggested
      let others ← nameOperations className (existing ++ [first.name]) rest
      return first :: others

/-- The names that are given. -/
def givenNames (named : List OperationName) : List String := named.map (·.name)

@[simp]
theorem givenNames_nil : givenNames [] = [] :=
  rfl

@[simp]
theorem givenNames_cons (first : OperationName) (others : List OperationName) :
    givenNames (first :: others) = first.name :: givenNames others :=
  rfl

theorem nameOperations_cons_eq_ok_iff {className : String} {existing : List String} {m : Member}
    {suggested : Option String} {rest : List (Member × Option String)}
    {named : List OperationName} :
    nameOperations className existing ((m, suggested) :: rest) = .ok named ↔
      ∃ first others, nameOperation existing className m suggested = .ok first ∧
        nameOperations className (existing ++ [first.name]) rest = .ok others ∧
        first :: others = named := by
  simp only [nameOperations, bind_eq_ok_iff, pure_eq_ok_iff]
  constructor
  · rintro ⟨first, step, others, run, all⟩
    exact ⟨first, others, step, run, all⟩
  · rintro ⟨first, others, step, run, all⟩
    exact ⟨first, step, others, run, all⟩

theorem nameOperations_cons_eq_error_iff {className : String} {existing : List String}
    {m : Member} {suggested : Option String} {rest : List (Member × Option String)}
    {failure : Failure} :
    nameOperations className existing ((m, suggested) :: rest) = .error failure ↔
      nameOperation existing className m suggested = .error failure ∨
        ∃ first, nameOperation existing className m suggested = .ok first ∧
          nameOperations className (existing ++ [first.name]) rest = .error failure := by
  simp [nameOperations, bind_eq_error_iff, pure, Except.pure]

/-- A name that is given was free. -/
theorem nodup_append_name {existing : List String} {className : String} {m : Member}
    {suggested : Option String} {named : OperationName} (distinct : existing.Nodup)
    (step : nameOperation existing className m suggested = .ok named) :
    (existing ++ [named.name]).Nodup := by
  rcases nameOperation_eq_ok_iff.mp step with ⟨free, rfl⟩
  rw [List.nodup_append]
  refine ⟨distinct, by simp, ?_⟩
  rintro name member _ (_ | ⟨_, ⟨⟩⟩) rfl
  exact free member

/-- The names given before and the new ones are distinct all together.  This is what each naming
keeps up for the next one. -/
theorem nodup_append_givenNames {className : String} {existing : List String}
    {proposals : List (Member × Option String)} {named : List OperationName}
    (distinct : existing.Nodup)
    (run : nameOperations className existing proposals = .ok named) :
    (existing ++ givenNames named).Nodup := by
  induction proposals generalizing existing named with
  | nil =>
      cases run
      simpa using distinct
  | cons proposal rest ih =>
      rcases nameOperations_cons_eq_ok_iff.mp run with ⟨first, others, step, later, rfl⟩
      have kept := ih (nodup_append_name distinct step) later
      simpa using kept

/-- Each operation is named with a view to the names that were given before it. -/
theorem nameOperation_of_getElem? {className : String} {existing : List String}
    {proposals : List (Member × Option String)} {named : List OperationName}
    (run : nameOperations className existing proposals = .ok named) :
    named.length = proposals.length ∧
      ∀ i m suggested n, proposals[i]? = some (m, suggested) → named[i]? = some n →
        nameOperation (existing ++ (givenNames named).take i) className m suggested = .ok n := by
  induction proposals generalizing existing named with
  | nil =>
      cases run
      simp
  | cons proposal rest ih =>
      rcases nameOperations_cons_eq_ok_iff.mp run with ⟨first, others, step, later, rfl⟩
      rcases ih later with ⟨lengthEq, each⟩
      refine ⟨by simp [lengthEq], ?_⟩
      intro i m suggested n proposalEq namedEq
      cases i with
      | zero =>
          cases proposalEq
          cases namedEq
          simpa using step
      | succ i =>
          have named := each i m suggested n (by simpa using proposalEq) (by simpa using namedEq)
          simpa [List.append_assoc] using named

/-- Naming fails at the first member whose operation cannot be named. -/
theorem nameOperations_eq_error_iff {className : String} {existing : List String}
    {proposals : List (Member × Option String)} {failure : Failure} :
    nameOperations className existing proposals = .error failure ↔
      ∃ front m suggested back given, proposals = front ++ (m, suggested) :: back ∧
        nameOperations className existing front = .ok given ∧
        nameOperation (existing ++ givenNames given) className m suggested = .error failure := by
  induction proposals generalizing existing with
  | nil => simp [nameOperations]
  | cons proposal rest ih =>
      rcases proposal with ⟨m, suggested⟩
      rw [nameOperations_cons_eq_error_iff]
      constructor
      · rintro (failed | ⟨first, step, later⟩)
        · exact ⟨[], m, suggested, rest, [], rfl, rfl, by simpa using failed⟩
        · rcases ih.mp later with ⟨front, m', suggested', back, given, rfl, run, failed⟩
          refine ⟨(m, suggested) :: front, m', suggested', back, first :: given, rfl, ?_, ?_⟩
          · exact nameOperations_cons_eq_ok_iff.mpr ⟨first, given, step, run, rfl⟩
          · simpa [List.append_assoc] using failed
      · rintro ⟨front, m', suggested', back, given, split, run, failed⟩
        cases front with
        | nil =>
            cases split
            cases run
            exact .inl (by simpa using failed)
        | cons earlier front =>
            cases split
            rcases nameOperations_cons_eq_ok_iff.mp run with ⟨first, others, step, later, rfl⟩
            refine .inr ⟨first, step, ih.mpr ⟨front, m', suggested', back, others, rfl, later, ?_⟩⟩
            simpa [List.append_assoc] using failed

/-- Members in front are named without regard to those behind them, and those behind them with a
view to all names in front. -/
theorem nameOperations_append (className : String) (existing : List String)
    (front back : List (Member × Option String)) :
    nameOperations className existing (front ++ back) =
      (nameOperations className existing front).bind fun given =>
        (nameOperations className (existing ++ givenNames given) back).map (given ++ ·) := by
  induction front generalizing existing with
  | nil =>
      cases rest : nameOperations className existing back <;>
        simp [nameOperations, Except.bind, Except.map, rest]
  | cons proposal front ih =>
      rcases proposal with ⟨m, suggested⟩
      simp only [List.cons_append, nameOperations, ih]
      cases step : nameOperation existing className m suggested with
      | error failure => rfl
      | ok first =>
          cases run : nameOperations className (existing ++ [first.name]) front with
          | error failure => simp [bind, Except.bind, run]
          | ok given =>
              cases rest : nameOperations className
                  (existing ++ givenNames (first :: given)) back <;>
                simp_all [bind, Except.bind, Except.map, pure, Except.pure]

/-- If all members can be named, those in front of others are given the same names without
them. -/
theorem nameOperations_front {className : String} {existing : List String}
    {front back : List (Member × Option String)} {named : List OperationName}
    (run : nameOperations className existing (front ++ back) = .ok named) :
    nameOperations className existing front = .ok (named.take front.length) := by
  rw [nameOperations_append] at run
  rcases bind_eq_ok_iff.mp run with ⟨given, frontRun, rest⟩
  rcases map_eq_ok_iff.mp rest with ⟨more, _, rfl⟩
  have lengthEq := (nameOperation_of_getElem? frontRun).1
  rw [frontRun, ← lengthEq, List.take_left]

/-- If members in front cannot be named, nothing behind them changes that. -/
theorem nameOperations_append_error {className : String} {existing : List String}
    {front : List (Member × Option String)} {failure : Failure}
    (run : nameOperations className existing front = .error failure)
    (back : List (Member × Option String)) :
    nameOperations className existing (front ++ back) = .error failure := by
  rw [nameOperations_append, run]
  rfl

/-! ## The names in a document -/

/-- The name that a strategy suggests for the operation of a member. -/
def Strategy.suggestion (s : Strategy) (m : Member) : Option String :=
  match s.kind with
  | .annotations => (Annotated.operationMarker m).name
  | .doclets => m.tagValue? "operationName"

/-- What a document says about the name of an operation. -/
def operationNaming (o : Noted Operation) : OperationName :=
  ⟨o.value.name, o.value.method, o.value.title⟩

theorem Strategy.operation_naming (s : Strategy) (c : Source.Class) (existing : List String)
    (m : Member) :
    (s.operation c existing m).map operationNaming =
      nameOperation existing c.qualifiedName m (s.suggestion m) := by
  rcases s with ⟨kind, category⟩
  cases kind with
  | annotations =>
      simp only [operation, fillOperation, Annotated.fillOperation, suggestion]
      cases nameOperation existing c.qualifiedName m (Annotated.operationMarker m).name <;> rfl
  | doclets =>
      simp only [operation, fillOperation, Tagged.fillOperation, suggestion]
      cases nameOperation existing c.qualifiedName m (m.tagValue? "operationName") <;> rfl

/-- Both strategies name the operations of a service in the same way. -/
theorem Strategy.operations_naming (s : Strategy) (c : Source.Class) (existing : List String)
    (members : List Member) :
    (s.operations c existing members).map (·.map operationNaming) =
      nameOperations c.qualifiedName existing (members.map fun m => (m, s.suggestion m)) := by
  induction members generalizing existing with
  | nil => rfl
  | cons m rest ih =>
      simp only [operations, List.map_cons, nameOperations, ← s.operation_naming c existing m]
      cases step : s.operation c existing m with
      | error failure => rfl
      | ok first =>
          change _ = (nameOperations c.qualifiedName (existing ++ [first.value.name]) _).bind
            fun others => .ok (operationNaming first :: others)
          rw [← ih (existing ++ [first.value.name])]
          cases run : s.operations c (existing ++ [first.value.name]) rest <;>
            simp [bind, Except.bind, Except.map, pure, Except.pure, run]

/-- The exact law of operation names.  The operations of a document are named by
`nameOperations`, whichever the strategy; the names it gives are distinct and follow the rule;
the method is kept exactly when its name is taken; the only failure is that the name wanted for
a member is among those given before; and members never change names given before them. -/
theorem nameOperations_exact (s : Strategy) (c : Source.Class) :
    (∀ members, (s.operations c [] members).map (·.map operationNaming) =
      nameOperations c.qualifiedName [] (members.map fun m => (m, s.suggestion m))) ∧
    (∀ accepted named, nameOperations c.qualifiedName [] accepted = .ok named →
      named.length = accepted.length ∧ (givenNames named).Nodup ∧
        ∀ i m suggested n, accepted[i]? = some (m, suggested) → named[i]? = some n →
          Wants ((givenNames named).take i) m suggested n.name ∧
            (n.method.isSome ↔ m.name ∈ (givenNames named).take i) ∧
            ∀ method, n.method = some method → method = m.name ∧ method ≠ n.name) ∧
    (∀ accepted failure, nameOperations c.qualifiedName [] accepted = .error failure ↔
      ∃ front m suggested back given name, accepted = front ++ (m, suggested) :: back ∧
        nameOperations c.qualifiedName [] front = .ok given ∧
        Wants (givenNames given) m suggested name ∧ name ∈ givenNames given ∧
        failure = .ambiguousName m.name c.qualifiedName) ∧
    ∀ front back,
      (∀ named, nameOperations c.qualifiedName [] (front ++ back) = .ok named →
        nameOperations c.qualifiedName [] front = .ok (named.take front.length)) ∧
      ∀ failure, nameOperations c.qualifiedName [] front = .error failure →
        nameOperations c.qualifiedName [] (front ++ back) = .error failure := by
  refine ⟨s.operations_naming c [], ?_, ?_, ?_⟩
  · intro accepted named run
    rcases nameOperation_of_getElem? run with ⟨lengthEq, each⟩
    refine ⟨lengthEq, by simpa using nodup_append_givenNames List.nodup_nil run, ?_⟩
    intro i m suggested n acceptedEq namedEq
    have step := each i m suggested n acceptedEq namedEq
    rw [List.nil_append] at step
    rcases nameOperation_eq_ok_iff.mp step with ⟨free, rfl⟩
    refine ⟨wants_iff.mpr rfl, ?_, ?_⟩
    · by_cases taken : m.name ∈ (givenNames named).take i <;> simp [taken]
    · intro method kept
      by_cases taken : m.name ∈ (givenNames named).take i
      · simp only [taken, if_true, Option.some.injEq] at kept
        subst method
        refine ⟨rfl, fun same => free ?_⟩
        change m.name = candidateName _ m suggested at same
        rw [← same]
        exact taken
      · simp [taken] at kept
  · intro accepted failure
    rw [nameOperations_eq_error_iff]
    constructor
    · rintro ⟨front, m, suggested, back, given, split, run, failed⟩
      rw [List.nil_append] at failed
      rcases nameOperation_eq_error_iff.mp failed with ⟨taken, rfl⟩
      exact ⟨front, m, suggested, back, given, _, split, run, wants_iff.mpr rfl, taken, rfl⟩
    · rintro ⟨front, m, suggested, back, given, name, split, run, wants, taken, rfl⟩
      rw [wants_iff] at wants
      subst name
      refine ⟨front, m, suggested, back, given, split, run, ?_⟩
      rw [List.nil_append]
      exact nameOperation_eq_error_iff.mpr ⟨taken, rfl⟩
  · intro front back
    exact ⟨fun named run => nameOperations_front run,
      fun failure run => nameOperations_append_error run back⟩

end ComponentGen.Extraction

import ComponentGen.Proofs.Extraction.Runs
import ComponentGen.Proofs.Source.TagComments

/-!
# Comments on inputs and faults

What the tags of a member say on its parameters and on the types that it throws becomes the
descriptions and the hints of its inputs and faults.  An input is described by what the last tag
that says something on its name says, and a fault by what the last one on its simple name says.
-/

namespace ComponentGen.Extraction

open Document Naming Outcome Source

/-- What a document has for a word that the tags of a name may say something on: the last comment
on the word with the first sentence of that comment, or nothing if no tag says anything on it. -/
structure DescribedBy (m : Member) (tag word : String) (description hint : Option String) :
    Prop where
  lastTold : ∀ comment, description = some comment ↔ LastTold (m.tagsNamed tag) word comment
  sentence : hint = description.map firstSentence
  silent : (∀ t ∈ m.tagsNamed tag, ∀ comment, ¬ Tells t.value word comment) →
    description = none ∧ hint = none

/-- An operation whose inputs and faults are described by the tags of its member. -/
structure DescribesParts (m : Member) (o : Operation) : Prop where
  inputs : List.Forall₂
    (fun parameter (input : Document.Parameter) => input.name = parameter.name ∧
      DescribedBy m "param" parameter.name input.description input.hint)
    m.parameters o.inputs
  faults : List.Forall₂
    (fun type (fault : Fault) => fault.name = type.simple ∧
      DescribedBy m "throws" type.simple fault.description fault.hint)
    m.faults o.faults

theorem describedBy_on? (m : Member) (tag word : String) :
    DescribedBy m tag word ((m.tagComments tag).on? word)
      (((m.tagComments tag).on? word).map firstSentence) := by
  have onWord := (sortsTags_tagComments m.toMetadata tag).onWord word
  constructor
  case lastTold => exact onWord
  case sentence => rfl
  case silent =>
    intro silent
    have nothing : (m.tagComments tag).on? word = none := by
      rw [Option.eq_none_iff_forall_ne_some]
      intro comment found
      rcases (onWord comment).mp found with ⟨before, t, after, split, tells, _⟩
      exact silent t (by simp [split]) comment tells
    rw [nothing]
    exact ⟨rfl, rfl⟩

theorem describesParts_operation {s : Strategy} {c : Source.Class} {earlier : List String}
    {m : Member} {o : Noted Operation} (step : s.operation c earlier m = .ok o) :
    DescribesParts m o.value := by
  rcases map_eq_ok_iff.mp step with ⟨filled, _, rfl⟩
  constructor
  case inputs =>
    rw [List.forall₂_map_right_iff, List.forall₂_same]
    intro parameter _
    exact ⟨rfl, describedBy_on? m paramTag parameter.name⟩
  case faults =>
    rw [List.forall₂_map_right_iff, List.forall₂_same]
    intro type _
    exact ⟨rfl, describedBy_on? m throwsTag type.simple⟩

theorem describesParts_service {s : Strategy} {component : Component} {c : Source.Class}
    {noted : Noted Service} (built : s.service component c = .ok noted) :
    List.Forall₂ DescribesParts (s.operationMembers c) noted.value.operations := by
  rcases Strategy.service_eq_ok_iff.mp built with ⟨described, operations, _, run, rfl⟩
  change List.Forall₂ DescribesParts (s.operationMembers c) (operations.map (·.value))
  rw [List.forall₂_map_right_iff]
  refine (Strategy.forall₂_operation run).imp ?_
  rintro m o ⟨earlier, step⟩
  exact describesParts_operation step

/-- The tags of a name on a member are told apart by whether there is white space inside their
trimmed values: each of those in which there is says one comment on one word, and the others are
kept in order.  What is known on a word is the last comment on it.  In every document that is made,
each input and each fault is described by what is known on its name. -/
theorem comments_of_generate {s : Strategy} {prior : Option Component} {tree : Tree}
    {report : Report} (run : s.generate prior tree = .ok report) :
    (∀ tag : Tag, tag.isWellFormed = true ↔ ∃ word comment, Tells tag.value word comment) ∧
      (∀ (m : Member) (name : String), SortsTags (m.tagsNamed name) (m.tagComments name)) ∧
      List.Forall₂
        (fun c service => List.Forall₂ DescribesParts (s.operationMembers c) service.operations)
        (s.serviceClasses tree) report.component.services := by
  refine ⟨?told, ?sorted, ?described⟩
  case told => exact fun tag => Tag.isWellFormed_iff
  case sorted => exact fun m name => sortsTags_tagComments m.toMetadata name
  case described =>
    refine (Strategy.services_of_generate run).imp ?_
    rintro c service ⟨noted, built, rfl⟩
    exact describesParts_service built

/-! ## A member that comments twice on one word -/

/-- A class with a method that comments twice on one of its parameters, with nothing behind the
name of the other one, and on one of the two types that it throws. -/
def ledgerClass : Source.Class where
  qualifiedName := "shop.Ledger"
  members :=
    [{ name := "post"
       tags :=
         [{ name := "param", value := "amount An old text." },
           { name := "throws", value := " Closed\tIf it is closed. Or sealed. " },
           { name := "param", value := "account" },
           { name := "param", value := "amount\n  How much. In cents." }]
       parameters :=
         [{ name := "amount", type := { name := "int" } },
           { name := "account", type := { name := "int" } }]
       faults := [{ name := "shop.Closed" }, { name := "shop.Unknown" }] }]

/-- The tree of that class. -/
def ledgerTree : Tree where
  classes := [ledgerClass]
  ordered := by simp

/-- The report on that tree. -/
def ledgerReport : Report where
  component :=
    { services :=
        [{ name := "Ledger"
           implementationClass := "shop.Ledger"
           autoDeploy := some { serviceId := "Ledger" }
           operations :=
             [{ name := "post"
                title := "Post"
                inputs :=
                  [{ name := "amount"
                     type := "int"
                     title := "Amount"
                     hint := some "How much."
                     description := some "How much. In cents." },
                    { name := "account", type := "int", title := "Account" }]
                faults :=
                  [{ name := "Closed"
                     type := "shop.Closed"
                     title := "Closed"
                     hint := some "If it is closed."
                     description := some "If it is closed. Or sealed." },
                    { name := "Unknown", type := "shop.Unknown", title := "Unknown" }] }] }] }
  warnings := [.malformedTagComment "shop.Ledger" "post" "param" "account"]

theorem generate_ledgerTree :
    ({ kind := .doclets } : Strategy).generate none ledgerTree = .ok ledgerReport := by
  decide +kernel

theorem comments_of_generate_ledgerTree :
    ({ kind := .doclets } : Strategy).generate none ledgerTree = .ok ledgerReport ∧
      List.Forall₂
        (fun c service => List.Forall₂ DescribesParts
          (Strategy.operationMembers { kind := .doclets } c) service.operations)
        [ledgerClass] ledgerReport.component.services :=
  ⟨generate_ledgerTree, (comments_of_generate generate_ledgerTree).2.2⟩

end ComponentGen.Extraction

import ComponentGen.Proofs.Document.Rules
import ComponentGen.Proofs.Extraction.Validity
import ComponentGen.Proofs.Program.Effects

/-!
# Categories of deployed services

The category of a service that is deployed by itself is chosen in layers: what the annotation of
its class gives, then an argument, then a variable of the environment, then the name of the
component.  Annotations and variables are trimmed and passed over where they are blank, and a
component without a name is refused.  An argument is taken as it is, so a blank one is a category
too, and the only blank one.
-/

namespace ComponentGen.Extraction

open Document Outcome Source Text

/-- The category that a class gives itself, in the text of its annotation. -/
def StrategyKind.ownCategory? (c : Source.Class) : StrategyKind → Option String
  | .annotations => (c.annotation? serviceAnnotation).bind (textValue? · "categoryId")
  | .doclets => none

namespace Strategy

theorem categoryId_serviceMarker (c : Source.Class) :
    (Annotated.serviceMarker c).categoryId = StrategyKind.annotations.ownCategory? c := by
  rw [Annotated.serviceMarker, ServiceMarker.ofValues, StrategyKind.ownCategory?]
  cases c.annotation? serviceAnnotation <;> rfl

theorem categoryId_fillAutoDeploy? {s : Strategy} {component : Component} {c : Source.Class}
    {node : AutoDeploy} {deployed : Noted AutoDeploy}
    (filled : s.fillAutoDeploy? component c node = some deployed) :
    deployed.value.categoryId = categoryFor (s.kind.ownCategory? c) s.category component := by
  rcases s with ⟨kind, category⟩
  cases kind with
  | annotations =>
      rw [← categoryId_serviceMarker]
      simp only [fillAutoDeploy?, Annotated.fillAutoDeploy?, Option.ite_none_right_eq_some,
        Option.some.injEq] at filled
      rcases filled with ⟨_, rfl⟩
      rfl
  | doclets =>
      cases filled
      rfl

theorem categoryId_service {s : Strategy} {component : Component} {c : Source.Class}
    {noted : Noted Service} (built : s.service component c = .ok noted) :
    ∀ a ∈ noted.value.autoDeploy,
      a.categoryId = categoryFor (s.kind.ownCategory? c) s.category component := by
  rcases service_eq_ok_iff.mp built with ⟨described, operations, _, _, rfl⟩
  intro a given
  rcases Option.map_eq_some_iff.mp given with ⟨deployed, filled, rfl⟩
  exact categoryId_fillAutoDeploy? filled

/-- The categories in a document are chosen with the name that the document has. -/
theorem categoryIds_of_generate {s : Strategy} {prior : Option Component} {tree : Tree}
    {report : Report} (run : s.generate prior tree = .ok report) :
    List.Forall₂
      (fun c service => ∀ a ∈ service.autoDeploy,
        a.categoryId = categoryFor (s.kind.ownCategory? c) s.category report.component)
      (s.serviceClasses tree) report.component.services := by
  rcases parts_of_generate run with ⟨parts, each, component, _⟩
  rw [component, List.forall₂_map_right_iff]
  exact each.imp fun c noted built => categoryId_service built

theorem id_of_generate {s : Strategy} {prior : Component} {tree : Tree} {report : Report}
    (run : s.generate (some prior) tree = .ok report) : report.component.id = prior.id := by
  rcases parts_of_generate run with ⟨parts, _, component, _⟩
  rw [component]
  rfl

end Strategy

end ComponentGen.Extraction

namespace ComponentGen.Program

open Document Extraction Files Source Text

/-! ## The layers -/

/-- The layer that the category of a class is taken from: the first one that gives any. -/
inductive HasCategory (kind : StrategyKind) (env : Environment) (args : GenerateArguments)
    (id : Option String) (c : Source.Class) : String → Prop where
  | own {category : String} (given : kind.ownCategory? c = some category) :
      HasCategory kind env args id c category
  | argument {category : String} (notOwn : kind.ownCategory? c = none)
      (given : args.category = some category) : HasCategory kind env args id c category
  | environment {category : String} (notOwn : kind.ownCategory? c = none)
      (noArgument : args.category = none)
      (given : env.value? "DSCGEN_COMPONENT_CATEGORY" = some category) :
      HasCategory kind env args id c category
  | component {category : String} (notOwn : kind.ownCategory? c = none)
      (noArgument : args.category = none)
      (notSet : env.value? "DSCGEN_COMPONENT_CATEGORY" = none) (given : id = some category) :
      HasCategory kind env args id c category

section

variable {kind : StrategyKind} {env : Environment} {args : GenerateArguments} {c : Source.Class}

theorem hasCategory_categoryFor {component : Component} (named : saysNothing component.id = false) :
    HasCategory kind env args component.id c
      (categoryFor (kind.ownCategory? c) (args.category.or (env.value? "DSCGEN_COMPONENT_CATEGORY"))
        component) := by
  rw [categoryFor]
  cases own : kind.ownCategory? c with
  | some category => exact .own own
  | none =>
      cases argument : args.category with
      | some category => exact .argument own argument
      | none =>
          cases environment : env.value? "DSCGEN_COMPONENT_CATEGORY" with
          | some category => exact .environment own argument environment
          | none =>
              cases name : component.id with
              | some id => exact .component own argument environment rfl
              | none => simp [saysNothing, name] at named

/-! ## Blank categories -/

theorem isBlank_ownCategory? {category : String} (given : kind.ownCategory? c = some category) :
    isBlank category = false := by
  cases kind with
  | annotations =>
      rcases Option.bind_eq_some_iff.mp given with ⟨values, _, text⟩
      exact isBlank_textValue? text
  | doclets => cases given

theorem isBlank_value? {name value : String} (given : env.value? name = some value) :
    isBlank value = false := by
  rcases Option.bind_eq_some_iff.mp given with ⟨raw, _, left⟩
  exact isBlank_nonBlank? left

/-- Only an argument can give a blank category. -/
theorem HasCategory.isBlank_iff {id : Option String} {category : String}
    (chosen : HasCategory kind env args id c category) (named : saysNothing id = false) :
    isBlank category = true ↔
      kind.ownCategory? c = none ∧ ∃ given, args.category = some given ∧ isBlank given = true := by
  cases chosen with
  | own given => simp [given, isBlank_ownCategory? given]
  | argument notOwn given => simp [notOwn, given]
  | environment _ noArgument given => simp [noArgument, isBlank_value? given]
  | component _ noArgument _ given =>
      rw [given, saysNothing] at named
      simpa [noArgument] using named

end

/-! ## The categories of a run -/

/-- Each service that is deployed by itself has the category of its class, and only a blank
argument gives a blank one.  The name that a category may fall back to is the one of the document:
an argument, else a variable, else the name in an earlier document. -/
theorem categories_of_produce {env : Environment} {args : GenerateArguments} {format : Format}
    {toStdout : Bool} {before after : World} {report : Report}
    (run : produce ((Config.ofEnvironment env).withArguments args) format toStdout before =
      .ok report after) :
    let config := (Config.ofEnvironment env).withArguments args
    ∃ kind tree prior,
      config.strategyKind = .ok kind ∧ Tree.load before.store config.source = .ok tree ∧
      priorComponent before.store config.inputFile = .ok prior ∧
      report.component.id =
        (args.componentId.or (env.value? "DSCGEN_COMPONENT_ID")).or prior.id ∧
      List.Forall₂
        (fun c service => ∀ a ∈ service.autoDeploy,
          HasCategory kind env args report.component.id c a.categoryId ∧
          (isBlank a.categoryId = true ↔ kind.ownCategory? c = none ∧
            ∃ given, args.category = some given ∧ isBlank given = true))
        (Strategy.serviceClasses { kind } tree) report.component.services := by
  have made := makeDocument_of_produce run
  have named : saysNothing report.component.id = false :=
    (Component.validate_eq_ok_iff.mp (validate_of_makeDocument made) .requiredFields).1
  unfold makeDocument at made
  simp only [Outcome.bind_eq_ok_iff, Outcome.mapError_eq_ok_iff, Outcome.pure_eq_ok_iff] at made
  rcases made with ⟨_, _, kind, chosen, tree, loaded, prior, found, report, generated, _, _, rfl⟩
  refine ⟨kind, tree, prior, chosen, loaded, found, Strategy.id_of_generate generated, ?_⟩
  refine (Strategy.categoryIds_of_generate generated).imp ?_
  intro c service categories a deployed
  have layer : HasCategory kind env args report.component.id c a.categoryId := by
    rw [categories a deployed]
    exact hasCategory_categoryFor named
  exact ⟨layer, layer.isBlank_iff named⟩

/-! ## A blank argument -/

/-- A store with a service that gives itself no category. -/
def shopStore : Store where
  files :=
    [(["descriptors.json"],
      "\x7b\"classes\":[\x7b\"qualified_name\":\"shop.Orders\"," ++
        "\"annotations\":\x7b\"Service\":\x7b\x7d\x7d\x7d]\x7d")]

/-- Variables that name the component and give a category. -/
def shopEnvironment : Environment :=
  [("DSCGEN_COMPONENT_ID", " shop "), ("DSCGEN_COMPONENT_CATEGORY", "stores")]

/-- Arguments with a blank category. -/
def blankArguments : GenerateArguments where
  componentVersion := some "1"
  category := some " "

/-- The service with that category. -/
def blankService : Service where
  name := "Orders"
  implementationClass := "shop.Orders"
  autoDeploy := some { serviceId := "Orders", categoryId := " " }

/-- The report on the document that is made of these. -/
def blankReport : Report where
  component := { id := some "shop", version := some "1", services := [blankService] }

theorem makeDocument_shopStore :
    makeDocument shopStore ((Config.ofEnvironment shopEnvironment).withArguments blankArguments) =
      .ok blankReport := by
  decide +kernel

theorem produce_shopStore : ∃ after,
    produce ((Config.ofEnvironment shopEnvironment).withArguments blankArguments) .json true
      { store := shopStore } = .ok blankReport after := by
  refine ⟨_, print_of_makeDocument ?_ .json⟩
  exact makeDocument_shopStore

theorem categories_of_produce_shopStore :
    (∃ after,
      produce ((Config.ofEnvironment shopEnvironment).withArguments blankArguments) .json true
        { store := shopStore } = .ok blankReport after) ∧
      ∃ kind c, StrategyKind.ownCategory? c kind = none ∧
        HasCategory kind shopEnvironment blankArguments (some "shop") c " " := by
  refine ⟨produce_shopStore, ?_⟩
  rcases produce_shopStore with ⟨after, produced⟩
  rcases categories_of_produce produced with ⟨kind, tree, prior, _, _, _, _, each⟩
  rcases List.forall₂_cons_right_iff.mp each with ⟨c, _, chosen, _, _⟩
  rcases chosen _ rfl with ⟨layer, blank⟩
  exact ⟨kind, c, (blank.mp (by decide)).1, layer⟩

/-- Services are not always given a category that can be seen. -/
theorem not_forall_category_visible :
    ¬ ∀ env args format toStdout before after report,
      produce ((Config.ofEnvironment env).withArguments args) format toStdout before =
          .ok report after →
        ∀ s ∈ report.component.services, ∀ a ∈ s.autoDeploy, isBlank a.categoryId = false := by
  intro always
  rcases produce_shopStore with ⟨after, produced⟩
  have visible := always _ _ _ _ _ _ _ produced blankService (List.mem_singleton.mpr rfl) _ rfl
  exact absurd visible (by decide)

end ComponentGen.Program

import ComponentGen.Program.Config
import ComponentGen.Proofs.Extraction.Composition

/-!
# What is kept of an earlier document

What a document says about its component as a whole comes from four places, one on top of the
other: an earlier document, the configuration, and, for the classes that start the component and
follow its life, the tree.  The services come from the tree alone.  Those of an earlier document
leave no trace, and of the rest only the name of the component reaches a service.
-/

namespace ComponentGen.Extraction

open Document Program Source

/-! ## Layers -/

/-- What a component says about itself as a whole, after what was known of it before, a
configuration and a tree. -/
structure Layered (config : Config) (prior : Component) (tree : Tree) (component : Component) :
    Prop where
  id : component.id = config.componentId.or prior.id
  version : component.version = config.componentVersion.or prior.version
  classPath : component.classPath = prior.classPath
  bootstrapClass : ImplementingName tree "com.adobe.idp.dsc.component.Bootstrap"
    prior.bootstrapClass component.bootstrapClass
  lifecycleClass : ImplementingName tree "com.adobe.idp.dsc.component.LifeCycle"
    prior.lifecycleClass component.lifecycleClass

/-- The services are on top of what is known of the component as a whole and hide none of it. -/
theorem layered_frame (config : Config) (prior : Component) (tree : Tree)
    (services : List Service) :
    Layered config prior tree
      { Strategy.frame (some (config.override prior)) tree with services } where
  id := rfl
  version := rfl
  classPath := rfl
  bootstrapClass := implementingName_implementingName tree bootstrapInterface prior.bootstrapClass
  lifecycleClass := implementingName_implementingName tree lifecycleInterface prior.lifecycleClass

/-- A configuration has nothing to add to a component that it was applied to. -/
theorem Layered.override_eq {config : Config} {prior component : Component} {tree : Tree}
    (layered : Layered config prior tree component) : config.override component = component := by
  have id : config.componentId.or component.id = component.id := by
    rw [layered.id]
    cases config.componentId <;> rfl
  have version : config.componentVersion.or component.version = component.version := by
    rw [layered.version]
    cases config.componentVersion <;> rfl
  rw [Config.override, id, version]

/-! ## Services of an earlier document -/

/-- What the classes of a tree give to a report. -/
def Report.findings (report : Report) : List Service × List Warning :=
  (report.component.services, report.warnings)

namespace Strategy

/-- The classes of a tree give the same under components of the same name. -/
theorem findings_congr {a b : Option Component} (same : a.bind (·.id) = b.bind (·.id))
    (s : Strategy) (tree : Tree) :
    (s.generate a tree).map Report.findings = (s.generate b tree).map Report.findings := by
  have contributions : s.contribution (frame a tree) = s.contribution (frame b tree) := by
    funext c
    apply contribution_congr
    rw [frame_id, frame_id, same]
  rw [generate_eq_map, generate_eq_map, contributions]
  cases tree.classes.mapM (s.contribution (frame b tree)) with
  | error failure => rfl
  | ok results => rfl

/-- What is known of a component is known again from a document with it, whatever services the
document has. -/
theorem frame_frame (prior : Option Component) (tree : Tree) (services : List Service) :
    frame (some { frame prior tree with services }) tree = frame prior tree := by
  have again (type : String) (known : Option String) :
      implementingName tree type (implementingName tree type known) =
        implementingName tree type known := by
    rw [implementingName]
    cases found : tree.implementing? type <;> simp [implementingName, found]
  cases prior <;> simp [frame, fillComponent, Component.scalarsOnly, again]

theorem generate_again {s : Strategy} {prior : Option Component} {tree : Tree} {report : Report}
    (run : s.generate prior tree = .ok report) :
    s.generate (some report.component) tree = .ok report := by
  rcases parts_of_generate run with ⟨parts, _, component, _⟩
  rw [component, generate_congr (frame_frame prior tree _), run]

/-- A document says of its component as a whole what an earlier document, the configuration and
the tree say of it, and it is made again with itself as the earlier document.  Of two earlier
documents that name the component in the same way, both lead to the same services and warnings or
both to the same failure. -/
theorem generate_layers (config : Config) (s : Strategy) (tree : Tree) :
    (∀ prior report, s.generate (some (config.override prior)) tree = .ok report →
      Layered config prior tree report.component ∧
        config.override report.component = report.component ∧
        s.generate (some report.component) tree = .ok report) ∧
      ∀ a b : Option Component, a.bind (·.id) = b.bind (·.id) →
        (s.generate a tree).map Report.findings = (s.generate b tree).map Report.findings := by
  refine ⟨?_, fun a b same => findings_congr same s tree⟩
  intro prior report run
  have layered : Layered config prior tree report.component := by
    rcases parts_of_generate run with ⟨parts, _, component, _⟩
    rw [component]
    exact layered_frame config prior tree _
  exact ⟨layered, layered.override_eq, generate_again run⟩

end Strategy

/-! ## A document with services of long ago -/

/-- A document of an earlier state of the component, with a service whose class is gone. -/
def formerShop : Component where
  id := some "store"
  version := some "1.0"
  bootstrapClass := some "shop.Boot"
  lifecycleClass := some "shop.Life"
  classPath := some "lib"
  services := [{ name := "Till", implementationClass := "shop.Till" }]

/-- A configuration that gives the component another name. -/
def renamingConfig : Config where
  componentId := some "shop"

/-- A tree in which two classes start the component and none follows its life. -/
def twoStartsTree : Tree where
  classes :=
    [{ qualifiedName := "shop.Base", isAbstract := true, interfaces := [bootstrapInterface] },
      { qualifiedName := "shop.Cart", interfaces := [bootstrapInterface] }]
  ordered := by decide

/-- The report on that tree. -/
def twoStartsReport : Report where
  component :=
    { formerShop with
      id := some "shop"
      bootstrapClass := some "shop.Base"
      services :=
        [{ name := "Cart"
           implementationClass := "shop.Cart"
           autoDeploy := some { serviceId := "Cart", categoryId := "shop" } }] }

theorem generate_twoStartsTree :
    ({ kind := .doclets } : Strategy).generate (some (renamingConfig.override formerShop))
      twoStartsTree = .ok twoStartsReport := by
  decide +kernel

theorem generate_layers_twoStartsTree :
    Layered renamingConfig formerShop twoStartsTree twoStartsReport.component ∧
      ({ kind := .doclets } : Strategy).generate (some twoStartsReport.component) twoStartsTree =
        .ok twoStartsReport ∧
      (({ kind := .doclets } : Strategy).generate (some formerShop) twoStartsTree).map
          Report.findings =
        (({ kind := .doclets } : Strategy).generate (some { id := some "store" })
          twoStartsTree).map Report.findings := by
  rcases Strategy.generate_layers renamingConfig { kind := .doclets } twoStartsTree with
    ⟨layers, trace⟩
  rcases layers formerShop twoStartsReport generate_twoStartsTree with ⟨layered, _, again⟩
  exact ⟨layered, again, trace (some formerShop) (some { id := some "store" }) rfl⟩

end ComponentGen.Extraction

import ComponentGen.Proofs.Document.Reload
import ComponentGen.Proofs.Extraction.Runs

/-!
# Documents that are made again

A document can be made again from what was loaded of it.  Loading cleans the texts about the
component as a whole, while the tree gives its own class names anew each time; so the second
document may differ from the first one, but every later one is like the second.
-/

namespace ComponentGen.Extraction

open Document Source Xml

/-! ## What is known after loading -/

theorem bind_cleaned_bind_cleaned (ends : LineEnds) (text : Option String) :
    (text.bind (cleaned ends)).bind (cleaned ends) = text.bind (cleaned ends) := by
  cases text with
  | none => rfl
  | some s =>
      cases loaded : cleaned ends s with
      | none => simp [loaded]
      | some t => simp [loaded, cleaned_of_cleaned loaded]

/-- The name of a class that is found in the tree is not cleaned before it is used again. -/
theorem or_bind_cleaned (ends : LineEnds) (found known : Option String) :
    (found.or ((found.or known).bind (cleaned ends))).bind (cleaned ends) =
      (found.or known).bind (cleaned ends) := by
  cases found with
  | none => simp [bind_cleaned_bind_cleaned]
  | some name => simp

/-- What is loaded of a document is loaded again after another run. -/
theorem reloaded_fillComponent (ends : LineEnds) (tree : Tree) (known : Component) :
    (fillComponent tree ((fillComponent tree known).reloaded ends).scalarsOnly).reloaded ends =
      (fillComponent tree known).reloaded ends := by
  simp [fillComponent, Component.reloaded, Component.scalarsOnly, implementingName,
    bind_cleaned_bind_cleaned, or_bind_cleaned]

/-- Texts that are loaded without a change are known again after loading. -/
theorem fillComponent_reloaded {ends : LineEnds} {known : Component}
    (fixed : known.reloaded ends = known) (tree : Tree) :
    fillComponent tree ((fillComponent tree known).reloaded ends).scalarsOnly =
      fillComponent tree known := by
  have same (found own : Option String) (fixed : own.bind (cleaned ends) = own) :
      found.or ((found.or own).bind (cleaned ends)) = found.or own := by
    cases found with
    | none => simpa using fixed
    | some name => simp
  rcases known with ⟨id, version, bootstrapClass, lifecycleClass, classPath, services⟩
  simp only [Component.reloaded, Component.mk.injEq] at fixed
  simp [fillComponent, Component.reloaded, Component.scalarsOnly, implementingName, fixed, same]

/-! ## Runs after one another -/

namespace Strategy

theorem reloaded_of_generate {s : Strategy} {prior : Option Component} {tree : Tree}
    {report : Report} (run : s.generate prior tree = .ok report) (ends : LineEnds) :
    report.component.reload ends = .ok ((frame prior tree).reloaded ends) := by
  rcases generate_eq_ok_iff.mp run with ⟨results, -, rfl⟩
  exact Component.reload_eq ends _

/-- A document that was made from clean texts is made again from what is loaded of it. -/
theorem frame_reloaded {prior : Option Component} (clean : ∀ p ∈ prior, p.HasCleanScalars)
    (ends : LineEnds) (tree : Tree) :
    frame (some ((frame prior tree).reloaded ends)) tree = frame prior tree := by
  apply fillComponent_reloaded
  cases prior with
  | none => rfl
  | some p =>
      have own : p.scalarsOnly.HasCleanScalars := clean p rfl
      exact own.reloaded_eq ends

/-- A document that was made can be loaded and made again, whatever is done with line ends in
between.  The second document is made again without a change, and so is the first one if it was
made from clean texts. -/
theorem regenerate_fixpoint {s : Strategy} {prior : Option Component} {tree : Tree}
    {first : Report} (run : s.generate prior tree = .ok first) (ends : LineEnds) :
    ∃ loaded second reloaded third,
      first.component.reload ends = .ok loaded ∧
      s.generate (some loaded) tree = .ok second ∧
      second.component.reload ends = .ok reloaded ∧
      reloaded = loaded ∧
      s.generate (some reloaded) tree = .ok third ∧
      third = second ∧
      third.component.render .xml = second.component.render .xml ∧
      ((∀ p ∈ prior, p.HasCleanScalars) → second = first) := by
  have load := reloaded_of_generate run ends
  rcases generate_ok run (some ((frame prior tree).reloaded ends)) with ⟨second, again⟩
  have loadAgain := reloaded_of_generate again ends
  have fixed : (frame (some ((frame prior tree).reloaded ends)) tree).reloaded ends =
      (frame prior tree).reloaded ends := reloaded_fillComponent ends tree _
  -- What is loaded the second time is what was loaded the first time, so the third run is the
  -- second one.
  rw [fixed] at loadAgain
  refine ⟨_, second, _, second, load, again, loadAgain, rfl, again, rfl, rfl, ?_⟩
  intro clean
  have same := generate_congr (frame_reloaded clean ends tree) s
  rw [again, run] at same
  exact Except.ok.inj same

end Strategy

/-! ## A document that is made again -/

/-- A class that starts its component. -/
def startingClass : Source.Class where
  qualifiedName := "shop.Orders"
  interfaces := [bootstrapInterface]

/-- The tree of that class. -/
def startingTree : Tree where
  classes := [startingClass]
  ordered := by simp

/-- What an earlier document said about the component. -/
def earlierShop : Component where
  id := some "shop"
  version := some "1.0"
  bootstrapClass := some "shop.Start"

/-- The report on that tree. -/
def startingReport : Report where
  component :=
    { earlierShop with
      bootstrapClass := some "shop.Orders"
      services :=
        [{ name := "Orders"
           implementationClass := "shop.Orders"
           autoDeploy := some { serviceId := "Orders", categoryId := "shop" } }] }

theorem generate_startingTree :
    ({ kind := .doclets } : Strategy).generate (some earlierShop) startingTree =
      .ok startingReport := by
  decide +kernel

theorem hasCleanScalars_earlierShop : earlierShop.HasCleanScalars := by
  decide

theorem regenerate_fixpoint_startingTree :
    ({ kind := .doclets } : Strategy).generate (some earlierShop) startingTree =
        .ok startingReport ∧
      ∃ loaded, startingReport.component.reload .normalized = .ok loaded ∧
        ({ kind := .doclets } : Strategy).generate (some loaded) startingTree =
          .ok startingReport := by
  refine ⟨generate_startingTree, ?_⟩
  rcases Strategy.regenerate_fixpoint generate_startingTree .normalized with
    ⟨loaded, second, _, _, load, again, _, _, _, _, _, same⟩
  have clean : ∀ p ∈ some earlierShop, p.HasCleanScalars := by
    rintro p ⟨⟩
    exact hasCleanScalars_earlierShop
  rw [same clean] at again
  exact ⟨loaded, load, again⟩

end ComponentGen.Extraction

import ComponentGen.Extraction.Generation
import ComponentGen.Proofs.Source.Tree

/-!
# The order in which classes are listed

A document is made from a tree, and a tree holds the classes it is made of in the order of their
names.  If all names differ, the tree is the same for every order of the list, and so is all that is
made from it.
-/

namespace ComponentGen.Extraction

open Document Source Text

/-- A tree holds exactly the classes that are listed, in the order of the bytes of their names, and
those of one name in the order they are listed in.  If all names differ, then every order of the
list gives the same tree, the same class for an interface, and the same report or failure. -/
theorem generate_ofClasses_perm (classes : List Source.Class) :
    (Tree.ofClasses classes).classes.Perm classes ∧
      (Tree.ofClasses classes).classes.Pairwise
        (fun a b => utf8 a.qualifiedName ≤ utf8 b.qualifiedName) ∧
      (∀ name, (Tree.ofClasses classes).classes.filter (·.qualifiedName == name) =
        classes.filter (·.qualifiedName == name)) ∧
      ∀ listed : List Source.Class, listed.Perm classes →
        (classes.map (·.qualifiedName)).Nodup →
          Tree.ofClasses listed = Tree.ofClasses classes ∧
            (∀ type, (Tree.ofClasses listed).implementing? type =
              (Tree.ofClasses classes).implementing? type) ∧
            ∀ (s : Strategy) (prior : Option Component),
              s.generate prior (Tree.ofClasses listed) =
                s.generate prior (Tree.ofClasses classes) := by
  refine ⟨Tree.ofClasses_perm classes, Tree.pairwise_utf8 _, Tree.filter_ofClasses classes, ?_⟩
  intro listed same distinct
  have equal := Tree.ofClasses_eq_of_perm same distinct
  rw [equal]
  exact ⟨rfl, fun _ => rfl, fun _ _ => rfl⟩

/-- Two classes that start the component; the bytes of the second one's name come last. -/
def startingPair : List Source.Class :=
  [{ qualifiedName := "shop.Zoo", interfaces := [bootstrapInterface] },
    { qualifiedName := "shop.\u00c9tal", interfaces := [bootstrapInterface] }]

theorem generate_ofClasses_perm_startingPair :
    startingPair.reverse.Perm startingPair ∧ (startingPair.map (·.qualifiedName)).Nodup ∧
      (Tree.ofClasses startingPair.reverse).implementing? bootstrapInterface =
        (Tree.ofClasses startingPair).implementing? bootstrapInterface ∧
      ({ kind := .doclets } : Strategy).generate none (Tree.ofClasses startingPair.reverse) =
        ({ kind := .doclets } : Strategy).generate none (Tree.ofClasses startingPair) := by
  obtain ⟨_, _, _, orders⟩ := generate_ofClasses_perm startingPair
  have same : startingPair.reverse.Perm startingPair := List.reverse_perm startingPair
  have distinct : (startingPair.map (·.qualifiedName)).Nodup := by decide
  obtain ⟨_, found, made⟩ := orders startingPair.reverse same distinct
  exact ⟨same, distinct, found bootstrapInterface, made { kind := .doclets } none⟩

end ComponentGen.Extraction

import ComponentGen.Proofs.Text.ByteOrder
import ComponentGen.Source.Tree
import Mathlib.Data.List.Find
import Mathlib.Data.List.Nodup

/-!
# The order of source trees

The classes of a tree are in the order of their names.  So what stands behind a class has no
lesser name, and the first class that implements an interface is one of the least name.  Classes of
one name keep the order they were listed in, and if all names differ, the order of the list leaves
no trace in the tree.
-/

namespace ComponentGen.Source

open Text

/-! ## Names in order -/

theorem Class.before_iff {a b : Class} :
    a.before b = true ↔ utf8 a.qualifiedName ≤ utf8 b.qualifiedName := by
  rw [before, decide_eq_true_iff, utf8_le_utf8_iff]

theorem Class.before_trans (a b c : Class) (first : a.before b = true)
    (second : b.before c = true) : a.before c = true := by
  apply decide_eq_true
  exact String.le_trans (of_decide_eq_true first) (of_decide_eq_true second)

theorem Class.before_total (a b : Class) : (a.before b || b.before a) = true := by
  simp only [before, Bool.or_eq_true, decide_eq_true_eq]
  exact String.le_total a.qualifiedName b.qualifiedName

namespace Tree

/-! ## Trees of listed classes -/

/-- Nothing is lost and nothing is added. -/
theorem ofClasses_perm (classes : List Class) : (ofClasses classes).classes.Perm classes :=
  List.mergeSort_perm classes Class.before

/-- The classes of a tree make the tree again. -/
theorem ofClasses_classes (t : Tree) : ofClasses t.classes = t := by
  have sorted : t.classes.mergeSort Class.before = t.classes := List.mergeSort_of_pairwise t.ordered
  cases t
  simpa [ofClasses] using sorted

theorem pairwise_utf8 (t : Tree) :
    t.classes.Pairwise fun a b => utf8 a.qualifiedName ≤ utf8 b.qualifiedName :=
  t.ordered.imp fun {_ _} ordered => Class.before_iff.mp ordered

/-- Classes of one name stay in the order they are listed in. -/
theorem filter_ofClasses (classes : List Class) (name : String) :
    (ofClasses classes).classes.filter (·.qualifiedName == name) =
      classes.filter (·.qualifiedName == name) := by
  have tied : (classes.filter (·.qualifiedName == name)).Pairwise
      fun a b => a.before b = true := by
    rw [List.pairwise_iff_forall_sublist]
    intro a b pair
    have aNamed : a.qualifiedName = name := by
      simpa using (List.mem_filter.mp (pair.subset (List.mem_cons_self ..))).2
    have bNamed : b.qualifiedName = name := by
      simpa using (List.mem_filter.mp (pair.subset (.tail a (List.mem_cons_self ..)))).2
    rw [Class.before, aNamed, bNamed]
    exact decide_eq_true (String.le_refl name)
  have kept := (List.sublist_mergeSort Class.before_trans Class.before_total tied
    List.filter_sublist).filter (·.qualifiedName == name)
  simp only [List.filter_filter, Bool.and_self] at kept
  have sameLength := ((ofClasses_perm classes).filter (·.qualifiedName == name)).length_eq
  exact (kept.eq_of_length sameLength.symm).symm

/-- Classes of different names make the same tree in whatever order they are listed. -/
theorem ofClasses_eq_of_perm {classes listed : List Class} (same : listed.Perm classes)
    (distinct : (classes.map (·.qualifiedName)).Nodup) : ofClasses listed = ofClasses classes := by
  have classesSame : (ofClasses listed).classes.Perm (ofClasses classes).classes :=
    ((ofClasses_perm listed).trans same).trans (ofClasses_perm classes).symm
  have equal : (ofClasses listed).classes = (ofClasses classes).classes := by
    apply classesSame.eq_of_pairwise _ (ofClasses listed).ordered (ofClasses classes).ordered
    intro a b aMember bMember forth back
    have named : a.qualifiedName = b.qualifiedName :=
      String.le_antisymm (of_decide_eq_true forth) (of_decide_eq_true back)
    apply List.inj_on_of_nodup_map distinct _ _ named
    · exact same.mem_iff.mp ((ofClasses_perm listed).mem_iff.mp aMember)
    · exact (ofClasses_perm classes).mem_iff.mp bMember
  cases first : ofClasses listed
  cases second : ofClasses classes
  simpa [first, second] using equal

/-! ## The first class -/

/-- The tree of some of the classes. -/
def only (t : Tree) (keeps : Class → Bool) : Tree where
  classes := t.classes.filter keeps
  ordered := t.ordered.filter keeps

@[simp]
theorem classes_only (t : Tree) (keeps : Class → Bool) :
    (t.only keeps).classes = t.classes.filter keeps :=
  rfl

/-- No class behind another one has a lesser name. -/
theorem le_of_split {t : Tree} {before after : List Class} {c : Class}
    (split : t.classes = before ++ c :: after) :
    ∀ other ∈ after, c.qualifiedName ≤ other.qualifiedName := by
  have ordered := t.ordered
  rw [split, List.pairwise_append, List.pairwise_cons] at ordered
  intro other behind
  exact of_decide_eq_true (ordered.2.1.1 other behind)

/-- A class that comes first among those with a property has the least name among them. -/
theorem le_of_first {t : Tree} {property : Class → Prop} {before after : List Class} {c : Class}
    (split : t.classes = before ++ c :: after) (first : ∀ earlier ∈ before, ¬ property earlier) :
    ∀ other ∈ t.classes, property other → c.qualifiedName ≤ other.qualifiedName := by
  intro other member has
  rw [split, List.mem_append, List.mem_cons] at member
  rcases member with earlier | rfl | behind
  · exact absurd has (first other earlier)
  · exact String.le_refl other.qualifiedName
  · exact le_of_split split other behind

theorem implementsType_iff {c : Class} {type : String} :
    c.implementsType type = true ↔ type ∈ c.interfaces :=
  List.contains_iff_mem

theorem implementing?_eq_none_iff {t : Tree} {type : String} :
    t.implementing? type = none ↔ ∀ c ∈ t.classes, type ∉ c.interfaces := by
  simp only [implementing?, List.find?_eq_none, implementsType_iff]

/-- Classes that do not implement an interface can be left out where one that does is looked for. -/
theorem implementing?_only {t : Tree} {keeps : Class → Bool} {type : String}
    (silent : ∀ c ∈ t.classes, keeps c = false → type ∉ c.interfaces) :
    (t.only keeps).implementing? type = t.implementing? type := by
  rw [implementing?, implementing?, classes_only, List.find?_filter]
  apply List.find?_congr
  intro c member
  cases kept : keeps c with
  | true => simp
  | false =>
      have unlisted : c.implementsType type = false := by
        rw [Bool.eq_false_iff, ne_eq, implementsType_iff]
        exact silent c member kept
      simp [unlisted]

/-- The class that is found implements the interface and has the least name of all that do. -/
theorem le_of_implementing? {t : Tree} {type : String} {c : Class}
    (found : t.implementing? type = some c) :
    c ∈ t.classes ∧ type ∈ c.interfaces ∧
      ∀ other ∈ t.classes, type ∈ other.interfaces → c.qualifiedName ≤ other.qualifiedName := by
  rcases List.find?_eq_some_iff_append.mp found with ⟨implements, before, after, split, first⟩
  refine ⟨List.mem_of_find?_eq_some found, implementsType_iff.mp implements, ?_⟩
  apply le_of_first split
  intro earlier member listed
  have passed := first earlier member
  rw [implementsType_iff.mpr listed] at passed
  cases passed

end Tree

end ComponentGen.Source

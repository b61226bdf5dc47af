import ComponentGen.Source.Declaration

/-!
# Source trees

The classes that documents are made from, in the order of their qualified names.  Classes of one
name keep the order they were given in.
-/

namespace ComponentGen.Source

/-- The order of classes in a tree. -/
def Class.before (a b : Class) : Bool := decide (a.qualifiedName ≤ b.qualifiedName)

/-- Classes in the order of their qualified names. -/
structure Tree where
  classes : List Class
  ordered : classes.Pairwise fun a b => a.before b := by exact List.Pairwise.nil

instance : Inhabited Tree := ⟨{ classes := [] }⟩

namespace Tree

/-- The tree of some classes. -/
def ofClasses (classes : List Class) : Tree where
  classes := classes.mergeSort Class.before
  ordered := by
    apply List.pairwise_mergeSort
    · intro a b c first second
      simp only [Class.before, decide_eq_true_eq] at first second ⊢
      exact String.le_trans first second
    · intro a b
      simp only [Class.before, Bool.or_eq_true, decide_eq_true_eq]
      exact String.le_total a.qualifiedName b.qualifiedName

/-- The first class that implements an interface. -/
def implementing? (t : Tree) (type : String) : Option Class :=
  t.classes.find? (·.implementsType type)

end Tree

end ComponentGen.Source

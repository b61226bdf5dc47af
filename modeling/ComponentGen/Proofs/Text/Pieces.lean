import Mathlib.Data.List.Infix

/-!
# Texts that are put together

A text has each of the pieces in it that it is put together of.
-/

namespace ComponentGen.Text

/-- Pieces put together from the first one on. -/
def joined : List String → String
  | [] => ""
  | first :: rest => rest.foldl (· ++ ·) first

theorem isInfix_foldl {piece front : String} (pieces : List String)
    (inFront : piece.toList <:+: front.toList) :
    piece.toList <:+: (pieces.foldl (· ++ ·) front).toList := by
  induction pieces generalizing front with
  | nil => exact inFront
  | cons next rest ih =>
      have grown : piece.toList <:+: (front ++ next).toList := by
        rw [String.toList_append]
        exact inFront.trans (List.prefix_append _ _).isInfix
      exact ih grown

theorem isInfix_foldl_of_mem {piece : String} {pieces : List String} (member : piece ∈ pieces)
    (front : String) : piece.toList <:+: (pieces.foldl (· ++ ·) front).toList := by
  induction pieces generalizing front with
  | nil => cases member
  | cons next rest ih =>
      rcases List.mem_cons.mp member with rfl | later
      · have atEnd : piece.toList <:+: (front ++ piece).toList := by
          rw [String.toList_append]
          exact (List.suffix_append _ _).isInfix
        exact isInfix_foldl rest atEnd
      · exact ih later (front ++ next)

/-- Some of the pieces that a text is put together of are in it. -/
theorem isInfix_joined (pieces : List String) {marks : List String} (within : marks ⊆ pieces) :
    ∀ mark ∈ marks, mark.toList <:+: (joined pieces).toList := by
  intro mark member
  cases pieces with
  | nil => cases within member
  | cons first rest =>
      rcases List.mem_cons.mp (within member) with rfl | later
      · exact isInfix_foldl rest List.infix_rfl
      · exact isInfix_foldl_of_mem later first

end ComponentGen.Text

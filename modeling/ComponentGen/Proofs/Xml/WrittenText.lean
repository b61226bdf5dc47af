import ComponentGen.Xml.Reference
import ComponentGen.Xml.Writer
import ComponentGen.Proofs.Text.Trim
import Mathlib.Data.List.Chain

/-!
# Written text as it is read back

Escaped text is read back piece by piece: a character that has a meaning in markup comes back
from its reference, any other character that a document may hold comes back as itself, and the
rest is gone.  The reader then settles the line ends, and a text that is settled is read back
without a change.
-/

namespace ComponentGen.Xml

open Text

/-! ## Pieces -/

/-- The characters that are written by reference. -/
def isMarked (c : Char) : Bool := c == '&' || c == '<' || c == '>' || c == '"' || c == '\''

theorem eq_of_isMarked {c : Char} (marked : isMarked c = true) :
    c = '&' ∨ c = '<' ∨ c = '>' ∨ c = '"' ∨ c = '\'' := by
  simpa [isMarked, or_assoc] using marked

/-- What is read back of a written character. -/
def pieceOf? (c : Char) : Option Piece :=
  if isMarked c then some (.referred c)
  else if isAllowed c then some (.literal c)
  else none

/-- What is read back of written characters. -/
def writtenPieces (cs : List Char) : List Piece := cs.filterMap pieceOf?

@[simp]
theorem writtenPieces_nil : writtenPieces [] = [] :=
  rfl

theorem writtenPieces_cons (c : Char) (cs : List Char) :
    writtenPieces (c :: cs) = (pieceOf? c).toList ++ writtenPieces cs := by
  cases piece : pieceOf? c <;> simp [writtenPieces, piece]

theorem isAllowed_of_isMarked {c : Char} (marked : isMarked c = true) : isAllowed c = true := by
  rcases eq_of_isMarked marked with rfl | rfl | rfl | rfl | rfl <;> rfl

/-- A character is written by reference, as it is, or not at all. -/
theorem escape_of_not_isMarked {c : Char} (plain : isMarked c = false) :
    escape c = if isAllowed c then [c] else [] := by
  simp only [isMarked, Bool.or_eq_false_iff, beq_eq_false_iff_ne] at plain
  unfold escape
  split
  case h_9 noTab noLineFeed noReturn =>
    by_cases low : c.toNat < 0x20
    · have noBlank : c ≠ ' ' := by
        rintro rfl
        exact absurd low (by decide)
      simp_all [isAllowed, isSpace]
    · by_cases first : c = '\uFFFE' <;> by_cases second : c = '\uFFFF' <;>
        simp [isAllowed, low, first, second]
  all_goals simp_all [isAllowed, isSpace]

theorem pieces?_escape_append (c : Char) (rest : List Char) :
    pieces? none (escape c ++ rest) =
      (pieces? none rest).map ((pieceOf? c).toList ++ ·) := by
  cases marked : isMarked c with
  | true =>
      simp only [pieceOf?, marked, if_true]
      rcases eq_of_isMarked marked with rfl | rfl | rfl | rfl | rfl <;> rfl
  | false =>
      rw [escape_of_not_isMarked marked]
      have noReference : (c == '&') = false := by
        simp only [isMarked, Bool.or_eq_false_iff] at marked
        exact marked.1.1.1.1
      cases allowed : isAllowed c with
      | true => simp [pieceOf?, marked, allowed, pieces?, noReference]
      | false => simp [pieceOf?, marked, allowed]

/-- Written text resolves to its pieces. -/
theorem pieces?_escape (cs : List Char) :
    pieces? none (cs.flatMap escape) = some (writtenPieces cs) := by
  induction cs with
  | nil => rfl
  | cons c cs ih => rw [List.flatMap_cons, pieces?_escape_append, ih, writtenPieces_cons]; rfl

theorem mem_escape {c d : Char} (member : d ∈ escape c) :
    isAllowed d = true ∧ d ≠ '<' ∧ d ≠ '>' ∧ d ≠ '"' := by
  cases marked : isMarked c with
  | true =>
      have ordinary : (escape c).all
          (fun d => isAllowed d && d != '<' && d != '>' && d != '"') = true := by
        rcases eq_of_isMarked marked with rfl | rfl | rfl | rfl | rfl <;> rfl
      simpa [and_assoc] using List.all_eq_true.mp ordinary d member
  | false =>
      rw [escape_of_not_isMarked marked] at member
      cases allowed : isAllowed c with
      | true =>
          simp only [allowed, if_true, List.mem_singleton] at member
          subst d
          simp only [isMarked, Bool.or_eq_false_iff, beq_eq_false_iff_ne] at marked
          exact ⟨allowed, marked.1.1.1.2, marked.1.1.2, marked.1.2⟩
      | false => simp [allowed] at member

/-- Nothing in written text starts a tag, ends an attribute value or is not allowed. -/
theorem mem_flatMap_escape {cs : List Char} {d : Char} (member : d ∈ cs.flatMap escape) :
    isAllowed d = true ∧ d ≠ '<' ∧ d ≠ '>' ∧ d ≠ '"' := by
  rcases List.mem_flatMap.mp member with ⟨c, _, written⟩
  exact mem_escape written

/-- Nothing is written exactly if nothing is read back. -/
theorem flatMap_escape_eq_nil_iff (cs : List Char) :
    cs.flatMap escape = [] ↔ writtenPieces cs = [] := by
  have single : ∀ c, escape c = [] ↔ pieceOf? c = none := by
    intro c
    cases marked : isMarked c with
    | true =>
        rcases eq_of_isMarked marked with rfl | rfl | rfl | rfl | rfl <;> decide
    | false =>
        rw [escape_of_not_isMarked marked]
        cases allowed : isAllowed c <;> simp [pieceOf?, marked, allowed]
  simp [List.flatMap_eq_nil_iff, writtenPieces, List.filterMap_eq_nil_iff, single]

/-! ## Settled text -/

/-- Every carriage return stands at the end or in front of a character that is written by
reference, which is where the reader leaves it alone. -/
def Settled (cs : List Char) : Prop :=
  (∀ c ∈ cs, isAllowed c = true) ∧ cs.IsChain fun c next => c = '\r' → isMarked next = true

/-- The pieces that written text can have. -/
def IsWritten : Piece → Prop
  | .literal c => isAllowed c = true
  | .referred c => isMarked c = true

theorem isWritten_of_mem {cs : List Char} {piece : Piece} (member : piece ∈ writtenPieces cs) :
    IsWritten piece := by
  rcases List.mem_filterMap.mp member with ⟨c, _, found⟩
  unfold pieceOf? at found
  split at found
  · cases found
    assumption
  · split at found
    · cases found
      assumption
    · cases found

theorem settled_cons {c : Char} {cs : List Char} (allowed : isAllowed c = true)
    (ordinary : c ≠ '\r') (rest : Settled cs) : Settled (c :: cs) := by
  constructor
  · rintro d (_ | ⟨_, member⟩)
    · exact allowed
    · exact rest.1 d member
  · rw [List.isChain_cons]
    exact ⟨fun _ _ return_ => absurd return_ ordinary, rest.2⟩

theorem settled_return_cons {c : Char} {cs : List Char} (marked : isMarked c = true)
    (rest : Settled (c :: cs)) : Settled ('\r' :: c :: cs) := by
  constructor
  · rintro d (_ | ⟨_, member⟩)
    · rfl
    · exact rest.1 d member
  · rw [List.isChain_cons]
    refine ⟨?_, rest.2⟩
    rintro d (_ | _) _
    exact marked

theorem ne_return_of_isMarked {c : Char} (marked : isMarked c = true) : c ≠ '\r' := by
  rintro rfl
  exact absurd marked (by decide)

theorem settled_lineFeed_append (held : Bool) {cs : List Char} (rest : Settled cs) :
    Settled ((if held then ['\n'] else []) ++ cs) := by
  cases held with
  | false => exact rest
  | true => exact settled_cons (by decide) (by decide) rest

theorem settled_return_append (held : Bool) {c : Char} {cs : List Char}
    (marked : isMarked c = true) (rest : Settled (c :: cs)) :
    Settled ((if held then ['\r'] else []) ++ c :: cs) := by
  cases held with
  | false => exact rest
  | true => exact settled_return_cons marked rest

/-- What the reader makes of written text is settled.  While a carriage return is held back, the
next character is never taken as it is: no carriage return is written by reference. -/
theorem settled_textFrom {pieces : List Piece} (written : ∀ piece ∈ pieces, IsWritten piece)
    (held asIs : Bool) (exclusive : (held && asIs) = false) :
    Settled (textFrom held asIs pieces) := by
  induction pieces generalizing held asIs with
  | nil => cases held <;> simp [textFrom, Settled, isAllowed, isSpace]
  | cons piece rest ih =>
      have later := ih fun piece member => written piece (List.mem_cons_of_mem _ member)
      have here := written piece (List.mem_cons_self ..)
      cases piece with
      | referred c =>
          have ordinary := ne_return_of_isMarked here
          rw [textFrom, if_neg ordinary]
          exact settled_return_append held here
            (settled_cons (isAllowed_of_isMarked here) ordinary (later false true rfl))
      | literal c =>
          have kept (ordinary : c ≠ '\r') : Settled (c :: textFrom false false rest) :=
            settled_cons here ordinary (later false false rfl)
          rw [textFrom]
          cases asIs with
          | true =>
              have nothing : held = false := by simpa using exclusive
              subst held
              by_cases isReturn : c = '\r'
              · simpa [isReturn] using later true false rfl
              · simpa [isReturn] using kept isReturn
          | false =>
              rw [if_neg Bool.false_ne_true]
              apply settled_lineFeed_append
              split
              case isTrue =>
                split
                · exact settled_lineFeed_append true ⟨by simp, .nil⟩
                · exact later true false rfl
              case isFalse isReturn =>
                split
                · exact later false false rfl
                · exact kept isReturn

/-- Settled text is read back as it is, unless it ends with a carriage return. -/
theorem textFrom_writtenPieces {cs : List Char} (settled : Settled cs)
    (ends : cs.getLast? ≠ some '\r') (asIs : Bool) :
    textFrom false asIs (writtenPieces cs) = cs := by
  induction cs generalizing asIs with
  | nil => simp [textFrom]
  | cons c rest ih =>
      have chain := List.isChain_cons.mp settled.2
      have allowed := settled.1 c (List.mem_cons_self ..)
      have restSettled : Settled rest :=
        ⟨fun d member => settled.1 d (List.mem_cons_of_mem c member), chain.2⟩
      have restEnds : rest.getLast? ≠ some '\r' := by
        cases rest with
        | nil => simp
        | cons d rest => simpa using ends
      have again := ih restSettled restEnds
      rw [writtenPieces_cons]
      cases marked : isMarked c with
      | true =>
          simp [pieceOf?, marked, textFrom, ne_return_of_isMarked marked, again]
      | false =>
          by_cases isReturn : c = '\r'
          · subst c
            cases rest with
            | nil => simp at ends
            | cons d rest =>
                have nextMarked : isMarked d = true := chain.1 d rfl rfl
                have tail := again true
                rw [writtenPieces_cons] at tail ⊢
                simp only [pieceOf?, nextMarked, if_true, Option.toList_some,
                  List.singleton_append, textFrom, ne_return_of_isMarked nextMarked] at tail
                cases asIs <;>
                  simpa [pieceOf?, marked, allowed, nextMarked, textFrom,
                    ne_return_of_isMarked nextMarked] using tail
          · cases asIs <;>
              simp [pieceOf?, marked, allowed, textFrom, isReturn, again]

end ComponentGen.Xml

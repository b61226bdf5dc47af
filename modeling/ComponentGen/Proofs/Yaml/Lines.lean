import ComponentGen.Yaml.Document
import ComponentGen.Yaml.WrittenText

/-!
# Between the scalars of a written YAML text

A scalar ends with its line.  What follows is the end of the text or a line with the margin of
some column and then a key or the dash of an item: none of these can be taken for blanks, a
comment, a document mark or more of the scalar.
-/

namespace ComponentGen.Yaml

/-! ## Characters -/

theorem isBlank_of_isAlpha {c : Char} (letter : c.isAlpha = true) : isBlank c = false := by
  cases blank : isBlank c with
  | false => rfl
  | true =>
      simp only [isBlank, Bool.or_eq_true, beq_iff_eq] at blank
      rcases blank with rfl | rfl <;> exact absurd letter (by decide)

theorem isBreak_of_isAlpha {c : Char} (letter : c.isAlpha = true) : isBreak c = false := by
  cases ends : isBreak c with
  | false => rfl
  | true =>
      simp only [isBreak, Bool.or_eq_true, beq_iff_eq] at ends
      rcases ends with (((rfl | rfl) | rfl) | rfl) | rfl <;> exact absurd letter (by decide)

theorem ne_of_isAlpha {c d : Char} (letter : c.isAlpha = true) (other : d.isAlpha = false) :
    c ≠ d := by
  rintro rfl
  rw [letter] at other
  exact absurd other (by decide)

/-- A character that is no line end is no carriage return. -/
theorem ne_return_of_isBreak_eq_false {c : Char} (noBreak : isBreak c = false) : c ≠ '\r' := by
  rintro rfl
  exact absurd noBreak (by decide)

/-! ## What follows a scalar -/

/-- The end of the text, a key or an item. -/
inductive StartsToken : List Char → Prop
  | nil : StartsToken []
  | word {c : Char} {rest : List Char} (letter : c.isAlpha = true) : StartsToken (c :: rest)
  | dash {rest : List Char} : StartsToken ('-' :: ' ' :: rest)

/-- What is not passed over inside a line: no white space and no comment. -/
structure IsContentStart (c : Char) : Prop where
  noBlank : isBlank c = false
  noBreak : isBreak c = false
  noComment : c ≠ '#'

/-- A token also starts with no byte order mark, which is passed over at the start of a line. -/
structure IsTokenStart (c : Char) : Prop extends IsContentStart c where
  noByteMark : c ≠ '\uFEFF'

theorem StartsToken.isTokenStart {c : Char} {rest : List Char} (token : StartsToken (c :: rest)) :
    IsTokenStart c := by
  cases token with
  | word letter =>
      exact ⟨⟨isBlank_of_isAlpha letter, isBreak_of_isAlpha letter,
        ne_of_isAlpha letter (by decide)⟩, ne_of_isAlpha letter (by decide)⟩
  | dash => exact ⟨⟨by decide, by decide, by decide⟩, by decide⟩

theorem startsMark_of_isAlpha {c : Char} (letter : c.isAlpha = true) (rest : List Char) :
    startsMark (c :: rest) = false := by
  unfold startsMark
  split
  case h_1 same =>
    cases same
    exact absurd letter (by decide)
  case h_2 same =>
    cases same
    exact absurd letter (by decide)
  case h_3 => rfl

/-! ## Positions -/

namespace Position

@[simp]
theorem move_zero (p : Position) : p.move 0 = p := rfl

@[simp]
theorem move_move (p : Position) (m n : Nat) : (p.move m).move n = p.move (m + n) := by
  simp [move, Nat.add_assoc]

@[simp]
theorem column_move (p : Position) (n : Nat) : (p.move n).column = p.column + n := rfl

@[simp]
theorem line_move (p : Position) (n : Nat) : (p.move n).line = p.line := rfl

@[simp]
theorem index_move (p : Position) (n : Nat) : (p.move n).index = p.index + n := rfl

@[simp]
theorem column_nextLine (p : Position) (n : Nat) : (p.nextLine n).column = 0 := rfl

@[simp]
theorem line_nextLine (p : Position) (n : Nat) : (p.nextLine n).line = p.line + 1 := rfl

theorem column_beq_zero {p : Position} (inside : 0 < p.column) : (p.column == 0) = false :=
  beq_eq_false_iff_ne.mpr (Nat.ne_of_gt inside)

end Position

/-! ## White space in front of a token -/

theorem margin_succ (k : Nat) : margin (k + 1) = ' ' :: margin k := rfl

namespace Cursor

variable {flow keyAllowed : Bool} {p : Position} {next : List Char}

theorem toTokenFrom_content {c : Char} {rest : List Char} (start : IsContentStart c)
    (noByteMark : (c == '\uFEFF' && p.column == 0) = false) :
    toTokenFrom flow false keyAllowed p (c :: rest) = (c :: rest, p, keyAllowed) := by
  have noReturn := ne_return_of_isBreak_eq_false start.noBreak
  have noSpace : c ≠ ' ' ∧ c ≠ '\t' := by
    constructor <;> rintro rfl <;> exact absurd start.noBlank (by decide)
  rw [toTokenFrom, start.noBreak, noByteMark]
  · simp [noSpace, start.noComment]
  · exact fun _ same => absurd same noReturn

theorem toTokenFrom_token (token : StartsToken next) :
    toTokenFrom flow false keyAllowed p next = (next, p, keyAllowed) := by
  cases next with
  | nil => rfl
  | cons c rest =>
      have start := token.isTokenStart
      exact toTokenFrom_content start.toIsContentStart (by simp [start.noByteMark])

theorem toTokenFrom_blank (cs : List Char) :
    toTokenFrom flow false keyAllowed p (' ' :: cs) =
      toTokenFrom flow false keyAllowed (p.move 1) cs := by
  rw [toTokenFrom]
  · rfl
  · exact fun _ same => absurd same (by decide)

theorem toTokenFrom_margin (k : Nat) (cs : List Char) :
    toTokenFrom flow false keyAllowed p (margin k ++ cs) =
      toTokenFrom flow false keyAllowed (p.move k) cs := by
  induction k generalizing p with
  | zero => rfl
  | succ k ih =>
      rw [margin_succ, List.cons_append, toTokenFrom_blank, ih, Position.move_move, Nat.add_comm]

/-- Behind the end of a line a key may start. -/
theorem toTokenFrom_newLine (lines : List Char) :
    toTokenFrom false false keyAllowed p ('\n' :: lines) =
      toTokenFrom false false true (p.nextLine 1) lines := by
  rw [toTokenFrom]
  · simp [isBreak]
  · exact fun _ same => absurd same (by decide)

end Cursor

/-! ## Lines -/

/-- The cursor at the first token of some lines. -/
def firstToken (lines : List Char) (p : Position) : Cursor :=
  Cursor.toToken false ⟨lines, p, true, [], []⟩

section FirstToken

variable {p : Position} {b : Bool} {next lines : List Char}

theorem toToken_newLine (lines : List Char) :
    Cursor.toToken false ⟨'\n' :: lines, p, b, [], []⟩ = firstToken lines (p.nextLine 1) := by
  rw [firstToken, Cursor.toToken, Cursor.toToken]
  simp only [Cursor.toTokenFrom_newLine]

theorem toToken_token (token : StartsToken next) :
    Cursor.toToken false ⟨next, p, b, [], []⟩ = ⟨next, p, b, [], []⟩ := by
  rw [Cursor.toToken]
  simp only [Cursor.toTokenFrom_token token]

theorem firstToken_margin (k : Nat) (token : StartsToken next) :
    firstToken (margin k ++ next) p = ⟨next, p.move k, true, [], []⟩ := by
  rw [firstToken, Cursor.toToken]
  simp only [Cursor.toTokenFrom_margin, Cursor.toTokenFrom_token token]

end FirstToken

/-- What may stand behind a node of a collection: lines that start with a token in front of a
column or at it, and at the column itself only with certain tokens. -/
inductive Follows (column : Nat) (ends : List Char → Prop) : List Char → Prop
  | mk {k : Nat} {next : List Char} (token : StartsToken next) (left : k ≤ column)
      (same : k = column → ends next) : Follows column ends (margin k ++ next)

theorem Follows.imp {column outer : Nat} {ends others : List Char → Prop} {lines : List Char}
    (follows : Follows outer ends lines) (left : outer ≤ column)
    (weaker : outer = column → ∀ next, ends next → others next) : Follows column others lines := by
  cases follows with
  | mk token within same =>
      apply Follows.mk token (Nat.le_trans within left)
      intro here
      have meet : outer = column := by omega
      exact weaker meet _ (same (here.trans meet.symm))

end ComponentGen.Yaml

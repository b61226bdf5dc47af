import ComponentGen.Proofs.Data.Shown
import ComponentGen.Proofs.Number.Numeral
import ComponentGen.Proofs.Yaml.PlainScalars

/-!
# Spellings of values

Which scalars show which values.  A plain text that stands for itself is not the spelling of
anything else, and the digits of a whole number have neither a base mark nor a superfluous zero.
-/

namespace ComponentGen.Yaml

open Number

/-! ## Texts -/

/-- No spelling stands for another text. -/
theorem eq_of_resolve_eq_text {s t : String} (resolved : resolve s = some (.text t)) : t = s := by
  unfold resolve at resolved
  by_cases null : (s.isEmpty || isNullWord s) = true
  · rw [if_pos null] at resolved
    cases resolved
  rw [if_neg null] at resolved
  cases word : boolOfWord? s with
  | some b =>
      rw [word] at resolved
      cases resolved
  | none =>
      rw [word] at resolved
      generalize (if hasLeadingZero s.toList then none else floatingNumber? s) = number at resolved
      -- A number of more than 128 bits comes to the same choice as what is no whole number.
      cases number <;> grind

/-- A text may be written plainly exactly if its own spelling is read as it and does not look like a
number with superfluous zeros. -/
theorem isPlainText_iff {s : String} :
    isPlainText s = true ↔ hasLeadingZero s.toList = false ∧ resolve s = some (.text s) := by
  unfold isPlainText
  constructor
  · intro plain
    obtain ⟨noZero, isText⟩ := (Bool.and_eq_true _ _).mp plain
    refine ⟨(Bool.not_eq_true' _).mp noZero, ?_⟩
    split at isText
    case h_1 t resolved => rw [resolved, eq_of_resolve_eq_text resolved]
    case h_2 => cases isText
  · rintro ⟨noZero, resolved⟩
    rw [noZero, resolved]
    rfl

theorem shows_plainText {s : String} (plain : isPlainText s = true) :
    Shows (.text s) (scalarNode s.toList .plain {}) := by
  apply Shows.text
  · rw [Scalar.text?, String.ofList_toList]
  · rw [String.ofList_toList]
    exact (isPlainText_iff.mp plain).2

/-- What is not written plainly stands for nothing but a text. -/
theorem shows_styledText (s : String) {style : ScalarStyle} (styled : style ≠ .plain) :
    Shows (.text s) (scalarNode s.toList style {}) := by
  apply Shows.text
  · rw [Scalar.text?, String.ofList_toList]
  · rw [String.ofList_toList]
    exact if_neg (by simpa using styled)

/-! ## Truth values -/

theorem shows_true : Shows (.bool true) (scalarNode "true".toList .plain {}) := by
  apply Shows.bool
  · rw [String.ofList_toList]
    decide
  · rw [String.ofList_toList]
    rfl

theorem shows_false : Shows (.bool false) (scalarNode "false".toList .plain {}) := by
  apply Shows.bool
  · rw [String.ofList_toList]
    decide
  · rw [String.ofList_toList]
    rfl

/-! ## Whole numbers -/

theorem basedNat?_of_isDigit {cs : List Char} (digits : ∀ c ∈ cs, c.isDigit = true) :
    basedNat? cs = none := by
  have noMark {mark : Char} (noDigit : mark.isDigit = false) : mark ∉ cs := by
    intro member
    rw [digits mark member] at noDigit
    cases noDigit
  unfold basedNat?
  split
  case h_1 => exact absurd (by simp) (noMark (show 'x'.isDigit = false by decide))
  case h_2 => exact absurd (by simp) (noMark (show 'o'.isDigit = false by decide))
  case h_3 => exact absurd (by simp) (noMark (show 'b'.isDigit = false by decide))
  case h_4 => rfl

/-- Decimal digits without a superfluous zero. -/
theorem exists_natDigits_cons (n : Nat) :
    ∃ c rest, natDigits n = c :: rest ∧ c.isDigit = true ∧ (c = '0' → rest = []) := by
  cases n with
  | zero => exact ⟨'0', [], rfl, by decide, fun _ => rfl⟩
  | succ n =>
      obtain ⟨c, rest, starts, notZero⟩ := exists_natDigits_eq_cons (Nat.succ_pos n)
      have digit : c ∈ natDigits (n + 1) := starts ▸ List.mem_cons_self ..
      exact ⟨c, rest, starts, isDigit_of_mem_natDigits digit, fun same => absurd same notZero⟩

theorem ne_of_isDigit {c d : Char} (digit : c.isDigit = true) (other : d.isDigit = false) :
    c ≠ d := by
  rintro rfl
  rw [digit] at other
  cases other

theorem hasLeadingZero_unsigned {c : Char} {rest : List Char} (digit : c.isDigit = true)
    (lone : c = '0' → rest = []) : hasLeadingZero (c :: rest) = false := by
  have noMinus : c ≠ '-' := ne_of_isDigit digit (by decide)
  have noPlus : c ≠ '+' := ne_of_isDigit digit (by decide)
  by_cases zero : c = '0'
  · simp [hasLeadingZero, zero, lone zero]
  · simp [hasLeadingZero, zero, noMinus, noPlus]

theorem hasLeadingZero_minus {c : Char} {rest : List Char} (lone : c = '0' → rest = []) :
    hasLeadingZero ('-' :: c :: rest) = false := by
  by_cases zero : c = '0'
  · simp [hasLeadingZero, zero, lone zero]
  · simp [hasLeadingZero, zero]

theorem wholeNumber?_intText (n : Int) : wholeNumber? (intText n).toList = some n := by
  have digits (k : Nat) : basedNat? (natDigits k) = none :=
    basedNat?_of_isDigit fun _ => isDigit_of_mem_natDigits
  have value := intOfDigits?_intText n
  cases n with
  | ofNat k =>
      have noBase := digits k
      obtain ⟨c, rest, starts, digit, lone⟩ := exists_natDigits_cons k
      have noMinus : c ≠ '-' := ne_of_isDigit digit (by decide)
      have noPlus : c ≠ '+' := ne_of_isDigit digit (by decide)
      rw [intText, String.toList_ofList, starts] at value ⊢
      rw [starts] at noBase
      simp [wholeNumber?, noBase, hasLeadingZero_unsigned digit lone, value, noMinus, noPlus]
  | negSucc k =>
      have noBase := digits (k + 1)
      obtain ⟨c, rest, starts, -, lone⟩ := exists_natDigits_cons (k + 1)
      rw [intText, String.toList_ofList, starts] at value ⊢
      rw [starts] at noBase
      simp [wholeNumber?, noBase, hasLeadingZero_minus lone, value]

/-- The spelling of a whole number stands for that number. -/
theorem resolve_intText {n : Int} (fits : fitsInt64 n = true) :
    resolve (intText n) = some (.int n) := by
  have noWord {s : String} (other : wholeNumber? s.toList = none) : intText n ≠ s := by
    rintro rfl
    rw [wholeNumber?_intText] at other
    cases other
  have noNull : ((intText n).isEmpty || isNullWord (intText n)) = false := by
    simp [isNullWord, noWord (show wholeNumber? "".toList = none by decide),
      noWord (show wholeNumber? "null".toList = none by decide),
      noWord (show wholeNumber? "Null".toList = none by decide),
      noWord (show wholeNumber? "NULL".toList = none by decide),
      noWord (show wholeNumber? "~".toList = none by decide)]
  have noBool : boolOfWord? (intText n) = none := by
    simp [boolOfWord?, noWord (show wholeNumber? "true".toList = none by decide),
      noWord (show wholeNumber? "True".toList = none by decide),
      noWord (show wholeNumber? "TRUE".toList = none by decide),
      noWord (show wholeNumber? "false".toList = none by decide),
      noWord (show wholeNumber? "False".toList = none by decide),
      noWord (show wholeNumber? "FALSE".toList = none by decide)]
  have inWord : fitsWord64 n = true := by
    simp only [fitsInt64, fitsWord64, Bool.and_eq_true, decide_eq_true_eq] at fits ⊢
    omega
  rw [resolve]
  simp [noNull, noBool, wholeNumber?_intText, inWord]

theorem shows_int {n : Int} (fits : fitsInt64 n = true) :
    Shows (.int n) (scalarNode (intText n).toList .plain {}) := by
  apply Shows.int
  · simp [Scalar.int?, Scalar.readsAs, String.ofList_toList, wholeNumber?_intText, fits]
  · rw [String.ofList_toList]
    exact resolve_intText fits

theorem isPlainLine_intText (n : Int) : IsPlainLine (intText n).toList := by
  have word {k : Nat} {c : Char} (member : c ∈ natDigits k) : isWordChar c = true := by
    simp [isWordChar, Char.isAlphanum, isDigit_of_mem_natDigits member]
  apply isPlainLine_of_isWordChar
  · cases n with
    | ofNat k =>
        rw [intText, String.toList_ofList]
        exact fun c => word
    | negSucc k =>
        rw [intText, String.toList_ofList]
        intro c member
        cases member with
        | head => decide
        | tail _ later => exact word later
  · cases n with
    | ofNat k =>
        obtain ⟨c, rest, starts, digit, -⟩ := exists_natDigits_cons k
        rw [intText, String.toList_ofList, starts]
        apply startsPlain_of_isAlphanum
        simp [Char.isAlphanum, digit]
    | negSucc k =>
        obtain ⟨c, rest, starts, digit, -⟩ := exists_natDigits_cons (k + 1)
        have start := isPlainStart_of_startsPlain
          (startsPlain_of_isAlphanum (show c.isAlphanum = true by simp [Char.isAlphanum, digit]) rest)
        have goesOn : startsBlank (c :: rest) = false := by
          rw [startsBlank, start.noBlank, start.noBreak, Bool.or_false]
        rw [intText, String.toList_ofList, starts, startsPlain, goesOn]
        rfl

end ComponentGen.Yaml

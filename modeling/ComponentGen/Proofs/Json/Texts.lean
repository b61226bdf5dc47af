import ComponentGen.Json.Printer
import ComponentGen.Json.Reader
import ComponentGen.Proofs.Number.Numeral
import ComponentGen.Proofs.Text.Trim

/-!
# JSON texts and numbers read back

A text in quotes is read as the text, character by character, and the digits of a whole number
of 64 bits are read as that number, whatever follows the quotes or the digits.
-/

namespace ComponentGen.Json

open Number Text

/-! ## Texts -/

@[simp]
theorem unlessHalf_none (tail : Option (List Char) × List Char) : unlessHalf none tail = tail :=
  rfl

theorem hex4?_hexDigit : ∀ n < 0x20,
    hex4? '0' '0' (hexDigit (n / 16)) (hexDigit (n % 16)) = some n := by
  decide

/-- A character of a text is read back from its escape. -/
theorem readContent_escape (c : Char) (rest : List Char) :
    readContent none (escape c ++ rest) = (readContent none rest).map (consContent c) := by
  unfold escape
  split
  case h_8 quote backslash _ _ _ _ _ =>
    split
    case isTrue control =>
      have code := hex4?_hexDigit c.toNat control
      have high : isHighSurrogate c.toNat = false := by
        simp only [isHighSurrogate, Bool.and_eq_false_imp, decide_eq_true_eq]
        omega
      have low : isLowSurrogate c.toNat = false := by
        simp only [isLowSurrogate, Bool.and_eq_false_imp, decide_eq_true_eq]
        omega
      simp [readContent, code, high, low]
    case isFalse visible =>
      rw [List.singleton_append, readContent, if_neg visible]
      · rfl
      · exact quote
      · exact fun _ _ _ _ _ same => absurd same backslash
      · exact fun _ _ same => absurd same backslash
  all_goals simp [readContent, escaped?]

/-- A text is read back from its quotes. -/
theorem readContent_quoted (cs rest : List Char) :
    readContent none (cs.flatMap escape ++ '"' :: rest) = some (some cs, rest) := by
  induction cs with
  | nil => rfl
  | cons c cs ih =>
      rw [List.flatMap_cons, List.append_assoc, readContent_escape, ih]
      rfl

/-! ## Whole numbers -/

/-- What may follow the digits of a whole number: nothing that makes it another number. -/
def EndsNumber (rest : List Char) : Prop :=
  ∀ c ∈ rest.head?, c.isDigit = false ∧ c ≠ '.' ∧ c ≠ 'e' ∧ c ≠ 'E'

theorem le_ofDigitChars (cs : List Char) (word : Nat) : word ≤ Nat.ofDigitChars 10 cs word := by
  induction cs generalizing word with
  | nil => exact Nat.le_refl word
  | cons c rest ih =>
      rw [Nat.ofDigitChars_cons]
      have step := ih (10 * word + (c.toNat - '0'.toNat))
      omega

/-- All digits of a number that fits a word are collected. -/
theorem collect_eq {cs : List Char} (digits : ∀ c ∈ cs, c.isDigit = true) {word : Nat}
    (fits : Nat.ofDigitChars 10 cs word ≤ largestWord) :
    collect word cs = (Nat.ofDigitChars 10 cs word, []) := by
  induction cs generalizing word with
  | nil => rfl
  | cons c rest ih =>
      have value := (digitValue_of_isDigit (digits c (List.mem_cons_self ..))).1
      rw [Nat.ofDigitChars_cons] at fits ⊢
      have next : word * 10 + digitValue c = 10 * word + (c.toNat - '0'.toNat) := by
        rw [value, Nat.mul_comm]
      have below := Nat.le_trans (le_ofDigitChars rest _) fits
      rw [collect, next, if_neg (Nat.not_lt.mpr below)]
      exact ih (fun d member => digits d (List.mem_cons_of_mem c member)) fits

/-- The digits of a number are its whole part. -/
theorem readWhole?_natDigits (n : Nat) {rest : List Char} (ends : EndsNumber rest) :
    readWhole? (natDigits n ++ rest) = some (natDigits n, rest) := by
  rcases Nat.eq_zero_or_pos n with rfl | positive
  · have stops : rest.head?.any Char.isDigit = false := by
      cases rest with
      | nil => rfl
      | cons c rest => simp [(ends c rfl).1]
    rw [natDigits, Nat.toDigits_zero, List.singleton_append, readWhole?, stops]
    rfl
  · have digits : ∀ c ∈ natDigits n, c.isDigit = true := fun c => isDigit_of_mem_natDigits
    have whole := span_append digits fun c member => (ends c member).1
    obtain ⟨c, more, starts, notZero⟩ := exists_natDigits_eq_cons positive
    rw [starts, List.cons_append] at whole ⊢
    rw [readWhole?, whole]
    · rfl
    · exact fun _ same => notZero (List.cons.inj same).1

/-- The digits of a number that fits a word are read as the number. -/
theorem readUnsigned?_natDigits (negative : Bool) {n : Nat} (fits : n ≤ largestWord)
    {rest : List Char} (ends : EndsNumber rest) :
    readUnsigned? negative (natDigits n ++ rest) = some (wholeOf negative n, rest) := by
  have value : Nat.ofDigitChars 10 (natDigits n) 0 = n := Nat.ofDigitChars_ten_toDigits
  have collected : collect 0 (natDigits n) = (n, []) := by
    rw [collect_eq (fun c => isDigit_of_mem_natDigits) (by rwa [value]), value]
  simp only [readUnsigned?, readWhole?_natDigits n ends, Option.bind_eq_bind, Option.bind_some,
    collected]
  cases rest with
  | nil => rfl
  | cons c rest =>
      obtain ⟨-, point, small, capital⟩ := ends c rfl
      simp [small, capital]

/-- The text of a whole number of 64 bits is read as the number. -/
theorem readNumber?_intText {n : Int} (fits : fitsInt64 n = true) {rest : List Char}
    (ends : EndsNumber rest) :
    readNumber? ((intText n).toList ++ rest) = some (.int n, rest) := by
  simp only [fitsInt64, Bool.and_eq_true, decide_eq_true_eq] at fits
  cases n with
  | ofNat k =>
      have word : k ≤ largestWord := by
        have upper : (k : Int) ≤ 9223372036854775807 := fits.2
        rw [largestWord]
        omega
      have run := readUnsigned?_natDigits false word ends
      rw [intText, String.toList_ofList]
      have digits : ∀ c ∈ natDigits k, c.isDigit = true := fun c => isDigit_of_mem_natDigits
      cases split : natDigits k with
      | nil => exact absurd split Nat.toDigits_ne_nil
      | cons c more =>
          rw [split] at run digits
          rw [List.cons_append] at run ⊢
          rw [readNumber?, run]
          · rfl
          · intro _ same
            rw [(List.cons.inj same).1] at digits
            exact absurd (digits '-' (List.mem_cons_self ..)) (by decide)
  | negSucc k =>
      have word : k + 1 ≤ largestWord := by
        rw [largestWord]
        omega
      have within : 0 < k + 1 ∧ k + 1 ≤ Nat.pow 2 63 := by
        have limit : Nat.pow 2 63 = 9223372036854775808 := rfl
        omega
      rw [intText, String.toList_ofList, List.cons_append, readNumber?,
        readUnsigned?_natDigits true word ends, wholeOf, Bool.not_true, if_neg Bool.false_ne_true, if_pos within]
      rfl

end ComponentGen.Json

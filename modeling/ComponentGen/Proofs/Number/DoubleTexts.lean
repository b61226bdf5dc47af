import ComponentGen.Proofs.Number.Rounding
import ComponentGen.Proofs.Number.Shortest
import Mathlib.Data.List.DropRight

/-!
# Texts of doubles

The text of a double is a numeral of its shortest decimal.  In the text for people all digits stand
at their places.  In the text for data there may be an exponent, and there is always something that
no whole number has.
-/

namespace ComponentGen.Number.Binary64

/-! ## Numerals -/

/-- A number in positional form: the digits of a whole number and, behind a point, those of a
fraction, which do not end in a zero. -/
inductive IsPositional : List Char → ℚ → Prop where
  | whole (n : Nat) : IsPositional (Nat.toDigits 10 n) n
  | fraction (n : Nat) {digits : List Char} (decimal : ∀ c ∈ digits, c.isDigit = true)
      (present : digits ≠ []) (trailing : digits.getLast? ≠ some '0') :
      IsPositional (Nat.toDigits 10 n ++ '.' :: digits)
        (n + (Nat.ofDigitChars 10 digits 0 : Nat) / 10 ^ digits.length)

/-- A number with a fraction or with an exponent.  Very large and very small numbers, and no others,
are numbers from one to ten with an exponent. -/
inductive IsFloating : List Char → ℚ → Prop where
  | whole (n : Nat) (small : n < 10 ^ 16) : IsFloating (Nat.toDigits 10 n ++ ['.', '0']) n
  | fraction {cs : List Char} {x : ℚ} (positional : IsPositional cs x) (pointed : '.' ∈ cs)
      (large : 10 ^ (-5 : Int) ≤ x) (small : x < 10 ^ 16) : IsFloating cs x
  | power {cs : List Char} {x : ℚ} {exponent : Int} (positional : IsPositional cs x)
      (one_le : 1 ≤ x) (lt_ten : x < 10) (outside : exponent < -5 ∨ 16 ≤ exponent) :
      IsFloating (cs ++ 'e' :: (toString exponent).toList) (x * 10 ^ exponent)

/-! ## Places behind the point -/

/-- The digits of a number with zeros in front of them, so that there is one more than `places`. -/
def padded (places n : Nat) : List Char :=
  List.replicate (places + 1 - (natDigits n).length) '0' ++ natDigits n

theorem padded_zero (n : Nat) : padded 0 n = natDigits n := by
  have some_digit : 0 < (natDigits n).length := Nat.length_toDigits_pos
  have none : 0 + 1 - (natDigits n).length = 0 := by omega
  rw [padded, none, List.replicate_zero, List.nil_append]

/-- The last digit comes off the end. -/
theorem padded_succ (places n : Nat) :
    padded (places + 1) n = padded places (n / 10) ++ [(n % 10).digitChar] := by
  rw [padded, padded, natDigits, natDigits, Nat.toDigits_eq_if (by decide)]
  split
  case isTrue small =>
    have whole : n / 10 = 0 := by omega
    have last : n % 10 = n := by omega
    rw [whole, last, Nat.toDigits_zero, List.length_singleton, List.length_singleton,
      Nat.add_sub_cancel, Nat.add_sub_cancel, List.replicate_succ']
  case isFalse =>
    have oneMore : places + 1 + 1 - ((Nat.toDigits 10 (n / 10)).length + 1) =
        places + 1 - (Nat.toDigits 10 (n / 10)).length := by omega
    rw [List.length_append, List.length_singleton, oneMore, List.append_assoc]

theorem isDigit_digitChar {k : Nat} (small : k < 10) : k.digitChar.isDigit = true := by
  have digits : ∀ k < 10, k.digitChar.isDigit = true := by decide
  exact digits k small

/-- In front of the places stands the whole part, and at the places the rest. -/
theorem exists_padded_eq (places n : Nat) :
    ∃ fraction, padded places n = natDigits (n / 10 ^ places) ++ fraction ∧
      fraction.length = places ∧ (∀ c ∈ fraction, c.isDigit = true) ∧
      Nat.ofDigitChars 10 fraction 0 = n % 10 ^ places := by
  induction places generalizing n with
  | zero => exact ⟨[], by simp [padded_zero], rfl, by simp, by simp [Nat.mod_one]⟩
  | succ places ih =>
      obtain ⟨fraction, split, length, decimal, value⟩ := ih (n / 10)
      refine ⟨fraction ++ [(n % 10).digitChar], ?_, by simp [length], ?_, ?_⟩
      · rw [padded_succ, split, List.append_assoc, Nat.div_div_eq_div_mul, ← Nat.pow_succ']
      · rintro c member
        rcases List.mem_append.mp member with inFraction | last
        · exact decimal c inFraction
        · rw [List.mem_singleton.mp last]
          exact isDigit_digitChar (Nat.mod_lt n (by decide))
      · rw [Nat.ofDigitChars_append, value,
          Nat.ofDigitChars_cons_digitChar_of_lt_ten (Nat.mod_lt n (by decide)),
          Nat.ofDigitChars_nil, Nat.pow_succ', Nat.mod_mul]
        omega

/-- Digits are those that are left without zeros at the end, and the zeros. -/
theorem exists_rdropWhile_append (digits : List Char) :
    ∃ zeros, digits = digits.rdropWhile (· == '0') ++ List.replicate zeros '0' := by
  refine ⟨(digits.rtakeWhile (· == '0')).length, ?_⟩
  have all : digits.rtakeWhile (· == '0') =
      List.replicate (digits.rtakeWhile (· == '0')).length '0' := by
    rw [List.eq_replicate_iff]
    exact ⟨rfl, fun c member => by simpa using List.mem_rtakeWhile_imp member⟩
  rw [← all, List.rdropWhile_append_rtakeWhile]

/-! ## Positional texts -/

theorem natDigits_append_zeros {n : Nat} (positive : 0 < n) (zeros : Nat) :
    natDigits n ++ List.replicate zeros '0' = natDigits (n * 10 ^ zeros) := by
  induction zeros with
  | zero => simp
  | succ zeros ih =>
      have large : 10 ≤ n * 10 ^ zeros * 10 := by
        have : 0 < n * 10 ^ zeros := by positivity
        omega
      rw [List.replicate_succ', ← List.append_assoc, ih, Nat.pow_succ, ← Nat.mul_assoc, natDigits,
        natDigits, Nat.toDigits_of_base_le (by decide) large, Nat.mul_div_cancel _ (by decide),
        Nat.mul_mod_left]
      rfl

/-- A whole number is written without a point. -/
theorem positional_natCast (n p : Nat) : positional n p = Nat.toDigits 10 (n * 10 ^ p) := by
  rw [positional, if_pos (Int.natCast_nonneg p), Int.toNat_natCast]
  split
  case isTrue zero => rw [zero, Nat.zero_mul, Nat.toDigits_zero]
  case isFalse nonzero => exact natDigits_append_zeros (Nat.pos_of_ne_zero nonzero) p

theorem positional_neg (n : Nat) {places : Nat} (some_place : 0 < places) :
    positional n (-places) =
      let whole := (padded places n).take ((padded places n).length - places)
      let fraction :=
        ((padded places n).drop ((padded places n).length - places)).rdropWhile (· == '0')
      if fraction.isEmpty then whole else whole ++ '.' :: fraction := by
  have negative : ¬ (0 : Int) ≤ -places := by omega
  have toNat : (-(-places : Int)).toNat = places := by omega
  rw [positional, if_neg negative, toNat]
  rfl

/-- What is written for `n · 10 ^ -places`: the whole part, and behind a point what is left of the
places without zeros at the end. -/
theorem exists_positional_neg (n : Nat) {places : Nat} (some_place : 0 < places) :
    ∃ digits : List Char,
      positional n (-places) =
        (if digits.isEmpty then natDigits (n / 10 ^ places)
          else natDigits (n / 10 ^ places) ++ '.' :: digits) ∧
      (∀ c ∈ digits, c.isDigit = true) ∧ digits.getLast? ≠ some '0' ∧
      ∃ zeros, digits.length + zeros = places ∧
        n % 10 ^ places = 10 ^ zeros * Nat.ofDigitChars 10 digits 0 := by
  obtain ⟨fraction, split, length, decimal, value⟩ := exists_padded_eq places n
  obtain ⟨zeros, stripped⟩ := exists_rdropWhile_append fraction
  have whole : (padded places n).length - places = (natDigits (n / 10 ^ places)).length := by
    rw [split, List.length_append, length, Nat.add_sub_cancel]
  refine ⟨fraction.rdropWhile (· == '0'), ?_, ?_, ?_, zeros, ?_, ?_⟩
  · rw [positional_neg n some_place, whole, split, List.take_left, List.drop_left]
  · exact fun c member => decimal c ((List.rdropWhile_prefix _ _).subset member)
  · intro last
    have some_digit : fraction.rdropWhile (· == '0') ≠ [] := by
      rintro none
      rw [none] at last
      cases last
    have notZero := List.rdropWhile_last_not (· == '0') fraction some_digit
    rw [List.getLast?_eq_some_getLast some_digit, Option.some.injEq] at last
    simp [last] at notZero
  · have lengths := congrArg List.length stripped
    simp only [List.length_append, List.length_replicate] at lengths
    omega
  · rw [← value]
    conv_lhs => rw [stripped]
    rw [Nat.ofDigitChars_append, Nat.ofDigitChars_replicate_zero]

theorem isPositional_positional (n : Nat) (p : Int) :
    IsPositional (positional n p) (n * 10 ^ p) := by
  rcases Int.lt_or_le p 0 with negative | nonneg
  · obtain ⟨places, rfl⟩ : ∃ places : Nat, p = -places := ⟨(-p).toNat, by omega⟩
    have some_place : 0 < places := by omega
    obtain ⟨digits, written, decimal, trailing, zeros, length, rest⟩ :=
      exists_positional_neg n some_place
    have value : (n : ℚ) * 10 ^ (-places : Int) =
        (n / 10 ^ places : Nat) + (Nat.ofDigitChars 10 digits 0 : Nat) / 10 ^ digits.length := by
      have parts := Nat.div_add_mod n (10 ^ places)
      rw [rest] at parts
      have parts' : (10 ^ places : ℚ) * (n / 10 ^ places : Nat) +
          10 ^ zeros * (Nat.ofDigitChars 10 digits 0 : Nat) = n := by exact_mod_cast parts
      generalize n / 10 ^ places = whole at *
      rw [zpow_neg, zpow_natCast, ← parts', ← length, pow_add]
      field_simp
    rw [written, value]
    cases digits with
    | nil =>
        have whole := IsPositional.whole (n / 10 ^ places)
        simpa [natDigits, Nat.ofDigitChars_nil] using whole
    | cons c digits => exact .fraction _ decimal (List.cons_ne_nil c digits) trailing
  · obtain ⟨k, rfl⟩ := Int.eq_ofNat_of_zero_le nonneg
    have whole := IsPositional.whole (n * 10 ^ k)
    push_cast at whole
    rw [positional_natCast, zpow_natCast]
    exact whole

/-! ## Texts with a fraction or an exponent -/

theorem withoutZeros_spec {n fuel : Nat} (positive : 0 < n) (enough : n < 10 ^ fuel) (p : Int) :
    ((withoutZeros n p fuel).1 : ℚ) * 10 ^ (withoutZeros n p fuel).2 = n * 10 ^ p ∧
      (withoutZeros n p fuel).1 % 10 ≠ 0 := by
  induction fuel generalizing n p with
  | zero => omega
  | succ fuel ih =>
      rw [withoutZeros]
      split
      case isTrue zero =>
        obtain ⟨k, rfl⟩ := Nat.dvd_of_mod_eq_zero zero
        rw [Nat.mul_div_cancel_left k (by decide)]
        rw [Nat.pow_succ'] at enough
        have tenth_pos : 0 < k := by omega
        have tenth_lt : k < 10 ^ fuel := by omega
        obtain ⟨value, last⟩ := ih tenth_pos tenth_lt (p + 1)
        have moved := mul_ten_pow_mul k 1 (Int.add_comm 1 p)
        rw [Nat.pow_one, Nat.mul_comm] at moved
        exact ⟨value.trans moved.symm, last⟩
      case isFalse last => exact ⟨rfl, last⟩

/-- A number whose last digit is no zero has a point if it is no whole number. -/
theorem point_mem_positional {n : Nat} {p : Int} (last : n % 10 ≠ 0) (negative : p < 0) :
    '.' ∈ positional n p := by
  obtain ⟨places, rfl⟩ : ∃ places : Nat, p = -places := ⟨(-p).toNat, by omega⟩
  have some_place : 0 < places := by omega
  obtain ⟨digits, written, _, _, zeros, _, rest⟩ := exists_positional_neg n some_place
  rw [written]
  cases digits with
  | nil =>
      rw [Nat.ofDigitChars_nil, Nat.mul_zero] at rest
      have divided : 10 ∣ n :=
        (dvd_pow_self 10 some_place.ne').trans (Nat.dvd_of_mod_eq_zero rest)
      exact absurd (Nat.mod_eq_zero_of_dvd divided) last
  | cons c digits => simp

theorem isFloating_floating {n : Nat} {p : Int} (positive : 0 < n) (last : n % 10 ≠ 0) :
    IsFloating (floating n p) (n * 10 ^ p) := by
  rw [floating]
  generalize counted : ((natDigits n).length : Int) = count
  simp only [Bool.or_eq_true, decide_eq_true_eq]
  split
  case isTrue outside =>
    obtain ⟨least, less⟩ := decimal_bounds positive (1 - count)
    have first : count + (1 - count) - 1 = 0 := by omega
    have second : count + (1 - count) = 1 := by omega
    rw [counted, first, zpow_zero] at least
    rw [counted, second, zpow_one] at less
    have exponent : (n : ℚ) * 10 ^ p = n * 10 ^ (1 - count) * 10 ^ (count + p - 1) := by
      rw [mul_assoc, ← zpow_add₀ (by norm_num)]
      congr 2
      omega
    rw [exponent, intText_eq_toString]
    exact .power (isPositional_positional n (1 - count)) least less (by omega)
  case isFalse inside =>
    obtain ⟨least, less⟩ := decimal_bounds positive p
    rw [counted] at least less
    have large : (10 : ℚ) ^ (-5 : Int) ≤ n * 10 ^ p :=
      (zpow_le_zpow_right₀ (by norm_num) (by omega)).trans least
    have small : (n : ℚ) * 10 ^ p < 10 ^ (16 : Int) :=
      less.trans_le (zpow_le_zpow_right₀ (by norm_num) (by omega))
    split
    case isTrue whole =>
      obtain ⟨k, rfl⟩ := Int.eq_ofNat_of_zero_le whole
      rw [zpow_natCast] at small ⊢
      rw [positional_natCast]
      have written := IsFloating.whole (n * 10 ^ k) (by exact_mod_cast small)
      push_cast at written
      exact written
    case isFalse fraction =>
      exact .fraction (isPositional_positional n p)
        (point_mem_positional last (not_le.mp fraction)) large (by exact_mod_cast small)

/-! ## Texts of doubles -/

/-- The shortest decimal of a double is read back as the double. -/
theorem ofDecimal_shortest (goesUp : Nat → Bool) (negative : Bool) {m : Nat} {e : Int}
    (canonical : IsCanonical m e) (positive : 0 < m) (largest : e ≤ largestExponent) :
    ofDecimal negative (shortest goesUp m e).1 (shortest goesUp m e).2 = .finite negative m e :=
  ofDecimal_eq negative canonical largest (isShortest_shortest goesUp canonical positive).reads

/-- The text of a finite double for people: its sign, and its shortest decimal in positional form.
At a tie that is the larger one. -/
theorem text_finite (negative : Bool) {m : Nat} {e : Int} (canonical : IsCanonical m e) :
    ∃ (cs : List Char) (a : Nat) (p : Int),
      (finite negative m e).text = String.ofList ((if negative then ['-'] else []) ++ cs) ∧
      IsPositional cs (a * 10 ^ p) ∧ (m = 0 → a = 0) ∧
      (0 < m → IsShortest (fun _ => true) m e a p) := by
  rcases Nat.eq_zero_or_pos m with rfl | positive
  · exact ⟨positional 0 0, 0, 0, rfl, isPositional_positional 0 0, fun _ => rfl,
      fun positive => absurd positive (lt_irrefl 0)⟩
  · refine ⟨_, _, _, ?_, isPositional_positional _ _, fun zero => absurd zero positive.ne',
      fun _ => isShortest_shortest (fun _ => true) canonical positive⟩
    rw [text, if_neg positive.ne']

example : (finite true 5 (-1)).text = "-2.5" := by decide +kernel

/-- The text of a finite double in data: its sign, and its shortest decimal with a fraction or an
exponent.  At a tie that is the one with the even digit. -/
theorem dataText_eq (negative : Bool) {m : Nat} {e : Int} (canonical : IsCanonical m e) :
    ∃ (cs : List Char) (a : Nat) (p : Int),
      dataText negative m e = (if negative then ['-'] else []) ++ cs ∧
      IsFloating cs (a * 10 ^ p) ∧ (m = 0 → a = 0) ∧
      (0 < m → IsShortest (fun low => low % 2 == 1) m e a p) := by
  rcases Nat.eq_zero_or_pos m with rfl | positive
  · refine ⟨floating 0 0, 0, 0, rfl, ?_, fun _ => rfl,
      fun positive => absurd positive (lt_irrefl 0)⟩
    have zero := IsFloating.whole 0 (by decide)
    rw [Nat.cast_zero, zero_mul] at *
    exact zero
  · have isShortest := isShortest_shortest (fun low => low % 2 == 1) canonical positive
    generalize found : shortest (fun low => low % 2 == 1) m e = digits at isShortest
    have some_digit : 0 < digits.1 := by
      have value_pos := isShortest.reads.pos canonical positive
      rw [mul_pos_iff_of_pos_right (by positivity)] at value_pos
      exact_mod_cast value_pos
    obtain ⟨value, last⟩ := withoutZeros_spec some_digit (natDigits_bounds some_digit).2 digits.2
    generalize settled : withoutZeros digits.1 digits.2 (natDigits digits.1).length = short
      at value last
    have floats := isFloating_floating (p := short.2) (by omega) last
    rw [value] at floats
    refine ⟨floating short.1 short.2, digits.1, digits.2, ?_, floats,
      fun zero => absurd zero positive.ne', fun _ => isShortest⟩
    simp only [dataText, found, settled, if_neg positive.ne']

example : dataText false 5 0 = "5.0".toList := by decide +kernel

example : dataText false (10 ^ 16) 0 = "1e16".toList := by decide +kernel

end ComponentGen.Number.Binary64

import ComponentGen.Proofs.Number.Nearest
import Mathlib.Data.Nat.Cast.Order.Field
import Mathlib.Data.Nat.Log
import Mathlib.Tactic.FieldSimp

/-!
# The double nearest to a quotient

A quotient is brought into the range of full mantissas by a power of two and rounded there, and the
double with what comes out is the one that the quotient is read as.
-/

namespace ComponentGen.Number.Binary64

variable {num den : Nat} {e : Int}

/-! ## Scaling -/

theorem scaledBy_pos (den_pos : 0 < den) (num : Nat) (e : Int) : 0 < (scaledBy num den e).2 := by
  rw [scaledBy]
  split
  case isTrue => exact Nat.mul_pos den_pos (Nat.two_pow_pos _)
  case isFalse => exact den_pos

theorem scaledBy_div (num den : Nat) (e : Int) :
    ((scaledBy num den e).1 : ℚ) / (scaledBy num den e).2 = num / den / 2 ^ e := by
  rw [scaledBy]
  split
  case isTrue whole =>
    rw [zpow_of_nonneg whole]
    push_cast [Nat.pow_eq]
    rw [div_div]
  case isFalse fraction =>
    rw [zpow_of_not_nonneg fraction]
    push_cast [Nat.pow_eq]
    rw [div_inv_eq_mul]
    ring

theorem log2_bounds {n : Nat} (positive : 0 < n) :
    (2 : ℚ) ^ n.log2 ≤ n ∧ (n : ℚ) < 2 ^ (n.log2 + 1) := by
  constructor
  · exact_mod_cast Nat.log2_self_le positive.ne'
  · exact_mod_cast Nat.lt_log2_self

/-- The guess from the lengths of numerator and denominator is at most one too small. -/
theorem guess_bounds (num_pos : 0 < num) (den_pos : 0 < den) (guess : Int)
    (guessed : guess = Int.ofNat num.log2 - Int.ofNat den.log2 - 53) :
    (2 : ℚ) ^ 52 * 2 ^ guess ≤ num / den ∧ (num : ℚ) / den < 2 ^ 54 * 2 ^ guess := by
  obtain ⟨num_ge, num_lt⟩ := log2_bounds num_pos
  obtain ⟨den_ge, den_lt⟩ := log2_bounds den_pos
  have den_pos' : (0 : ℚ) < den := by exact_mod_cast den_pos
  have scale : (2 : ℚ) ^ guess = 2 ^ num.log2 / 2 ^ den.log2 / 2 ^ 53 := by
    rw [guessed, zpow_sub₀ (by norm_num), zpow_sub₀ (by norm_num)]
    rfl
  rw [pow_succ] at num_lt den_lt
  have num_unit : (0 : ℚ) < 2 ^ num.log2 := by positivity
  have den_unit : (0 : ℚ) < 2 ^ den.log2 := by positivity
  generalize (2 : ℚ) ^ num.log2 = a at *
  generalize (2 : ℚ) ^ den.log2 = b at *
  constructor
  · have least : (2 : ℚ) ^ 52 * 2 ^ guess = a / (b * 2) := by
      rw [scale]
      field_simp
    rw [least]
    gcongr
  · have most : (2 : ℚ) ^ 54 * 2 ^ guess = a * 2 / b := by
      rw [scale]
      field_simp
    rw [most]
    gcongr

/-- With the exponent for a quotient it has a full mantissa, or the exponent is the smallest. -/
theorem exponentFor_spec (num_pos : 0 < num) (den_pos : 0 < den) :
    -1074 ≤ exponentFor num den ∧
      (num : ℚ) / den < 2 ^ 53 * 2 ^ exponentFor num den ∧
      (2 ^ 52 * 2 ^ exponentFor num den ≤ (num : ℚ) / den ∨ exponentFor num den = -1074) := by
  simp only [exponentFor]
  generalize guessed : Int.ofNat num.log2 - Int.ofNat den.log2 - 53 = guess
  obtain ⟨least, less⟩ := guess_bounds num_pos den_pos guess guessed.symm
  have bottom_pos : (0 : ℚ) < (scaledBy num den guess).2 := by
    exact_mod_cast scaledBy_pos den_pos num guess
  have unit : (0 : ℚ) < 2 ^ guess := by positivity
  have full_iff : (scaledBy num den guess).1 / (scaledBy num den guess).2 < Nat.pow 2 53 ↔
      (num : ℚ) / den < 2 ^ 53 * 2 ^ guess := by
    rw [Nat.div_lt_iff_lt_mul (scaledBy_pos den_pos num guess), ← div_lt_iff₀ unit, ← scaledBy_div,
      div_lt_iff₀ bottom_pos]
    exact_mod_cast Iff.rfl
  have inRange : ∃ e, (if (scaledBy num den guess).1 / (scaledBy num den guess).2 < Nat.pow 2 53
      then guess else guess + 1) = e ∧ 2 ^ 52 * 2 ^ e ≤ (num : ℚ) / den ∧
        (num : ℚ) / den < 2 ^ 53 * 2 ^ e := by
    split
    case isTrue full => exact ⟨guess, rfl, least, full_iff.mp full⟩
    case isFalse more =>
      have more := not_lt.mp (mt full_iff.mpr more)
      refine ⟨guess + 1, rfl, ?_, ?_⟩
      · rw [zpow_add_one₀ (by norm_num)]
        linarith
      · rw [zpow_add_one₀ (by norm_num)]
        linarith
  obtain ⟨e, same, least, less⟩ := inRange
  rw [same]
  refine ⟨le_max_left _ _, less.trans_le ?_, ?_⟩
  · have larger : (2 : ℚ) ^ e ≤ 2 ^ max smallestExponent e :=
      zpow_le_zpow_right₀ (by norm_num) (le_max_right _ _)
    linarith
  · rcases Int.le_total smallestExponent e with normal | small
    · left
      rwa [max_eq_right normal]
    · right
      exact max_eq_left small

/-! ## Rounding -/

/-- A quotient is its whole part and less than one. -/
theorem div_eq_floor_add (num : Nat) (den_pos : 0 < den) :
    (num : ℚ) / den = (num / den : Nat) + (num % den : Nat) / den := by
  have den_pos' : (0 : ℚ) < den := by exact_mod_cast den_pos
  have parts : (den : ℚ) * (num / den : Nat) + (num % den : Nat) = num := by
    exact_mod_cast Nat.div_add_mod num den
  rw [← parts]
  field_simp

/-- A whole number is at most a half away from a number, and less than a half if it is odd. -/
structure IsNear (x : ℚ) (n : Nat) : Prop where
  near : n - 1 / 2 ≤ x ∧ x ≤ n + 1 / 2
  strict : n % 2 = 1 → n - 1 / 2 < x ∧ x < n + 1 / 2

theorem isNear_nearestEven (num : Nat) (den_pos : 0 < den) :
    IsNear (num / den) (nearestEven num den) := by
  have den_pos' : (0 : ℚ) < den := by exact_mod_cast den_pos
  have rest_lt : ((num % den : Nat) : ℚ) / den < 1 := by
    rw [div_lt_one den_pos']
    exact_mod_cast Nat.mod_lt num den_pos
  have rest_nonneg : (0 : ℚ) ≤ (num % den : Nat) / den := by positivity
  have lt_half : 2 * (num % den) < den ↔ ((num % den : Nat) : ℚ) / den < 1 / 2 := by
    rw [div_lt_div_iff₀ den_pos' (by norm_num), one_mul, mul_comm]
    exact_mod_cast Iff.rfl
  have half_lt : den < 2 * (num % den) ↔ 1 / 2 < ((num % den : Nat) : ℚ) / den := by
    rw [div_lt_div_iff₀ (by norm_num) den_pos', one_mul, mul_comm]
    exact_mod_cast Iff.rfl
  simp only [nearestEven, lt_half, half_lt]
  rw [div_eq_floor_add num den_pos]
  generalize num / den = floor
  generalize ((num % den : Nat) : ℚ) / den = rest at *
  split
  case isTrue low => exact ⟨⟨by linarith, by linarith⟩, fun _ => ⟨by linarith, by linarith⟩⟩
  case isFalse notLow =>
    split
    case isTrue high =>
      constructor
      · push_cast
        exact ⟨by linarith, by linarith⟩
      · push_cast
        exact fun _ => ⟨by linarith, by linarith⟩
    case isFalse notHigh =>
      split
      case isTrue even => exact ⟨⟨by linarith, by linarith⟩, fun odd => by omega⟩
      case isFalse odd =>
        refine ⟨?_, fun odd => by omega⟩
        push_cast
        exact ⟨by linarith, by linarith⟩

/-! ## The nearest double -/

section Rounded

variable {x : ℚ} {n : Nat} (near : IsNear (x / 2 ^ e) n)
include near

/-- A number that is rounded in units of a power of two. -/
theorem IsNear.mul :
    ((n - 1 / 2) * 2 ^ e ≤ x ∧ x ≤ (n + 1 / 2) * 2 ^ e) ∧
      (n % 2 = 1 → (n - 1 / 2) * 2 ^ e < x ∧ x < (n + 1 / 2) * 2 ^ e) := by
  have unit : (0 : ℚ) < 2 ^ e := by positivity
  obtain ⟨⟨below, above⟩, strict⟩ := near
  rw [le_div_iff₀ unit] at below
  rw [div_le_iff₀ unit] at above
  refine ⟨⟨below, above⟩, fun odd => ?_⟩
  rw [← lt_div_iff₀ unit, ← div_lt_iff₀ unit]
  exact strict odd

theorem IsNear.le (less : x < 2 ^ 53 * 2 ^ e) : n ≤ 2 ^ 53 := by
  have unit : (0 : ℚ) < 2 ^ e := by positivity
  rw [← div_lt_iff₀ unit] at less
  by_contra more
  have more' : (2 : ℚ) ^ 53 + 1 ≤ n := by exact_mod_cast not_le.mp more
  linarith [near.near.1]

theorem IsNear.full_le (full : 2 ^ 52 * 2 ^ e ≤ x) : 2 ^ 52 ≤ n := by
  have unit : (0 : ℚ) < 2 ^ e := by positivity
  rw [← le_div_iff₀ unit] at full
  by_contra less
  have less' : (n : ℚ) + 1 ≤ 2 ^ 52 := by exact_mod_cast not_le.mp less
  linarith [near.near.2]

theorem readsAs_of_isNear (positive : 0 < n) (canonical : IsCanonical n e)
    (full : 2 ^ 52 * 2 ^ e ≤ x ∨ e = -1074) : ReadsAs x n e := by
  have above : (size n e + upper n e) / 2 = (n + 1 / 2) * 2 ^ e := by
    rw [upper, size, size]
    push_cast
    ring
  have unit : (0 : ℚ) < 2 ^ e := by positivity
  obtain ⟨⟨low, high⟩, strict⟩ := near.mul
  rw [readsAs_iff canonical positive, above]
  by_cases halves : n = 2 ^ 52 ∧ -1074 < e
  · -- The next double below is only half a unit away, but so far down there is nothing to round.
    have least : size n e ≤ x := by
      rw [size, halves.1]
      push_cast
      rcases full with full | smallest
      · exact full
      · omega
    have below := lower_lt positive e
    exact ⟨⟨by linarith, high⟩, fun odd => by omega⟩
  · have below : (lower n e + size n e) / 2 = (n - 1 / 2) * 2 ^ e := by
      rw [lower, if_neg halves, size, size, Nat.cast_sub positive]
      push_cast
      ring
    rw [below]
    exact ⟨⟨low, high⟩, strict⟩

theorem readsAs_of_isNear_zero (none : n = 0) (smallest : e = -1074) : ReadsAs x 0 e := by
  have canonical : IsCanonical 0 e := ⟨⟨by decide, smallest.ge⟩, .inr smallest⟩
  have zero : size 0 e = 0 := by simp [size]
  have high : x ≤ (size 0 e + upper 0 e) / 2 := by
    have high := near.mul.1.2
    rw [none, Nat.cast_zero, zero_add] at high
    rw [zero, upper, size, zero_add, zero_add, Nat.cast_one]
    linarith
  refine ⟨?_, fun _ _ _ _ _ => rfl⟩
  intro k f isDouble
  rcases size_cases canonical isDouble with less | same | more
  · have nonneg' : 0 ≤ size k f := by
      rw [size]
      positivity
    have isZero : size k f = size 0 e := by
      rw [lower, if_neg (by omega)] at less
      exact le_antisymm less (zero ▸ nonneg')
    rw [isZero]
  · rw [same]
  · exact (abs_sub_low_le_iff ((lt_upper 0 e).trans_le more)).mpr (by linarith)

/-- If a mantissa has one bit too many after rounding, the double is a power of two. -/
theorem readsAs_of_isNear_carry (least : -1074 ≤ e) (less : x < 2 ^ 53 * 2 ^ e)
    (carried : n = 2 ^ 53) : ReadsAs x (2 ^ 52) (e + 1) := by
  have canonical : IsCanonical (2 ^ 52) (e + 1) := ⟨⟨by norm_num, by omega⟩, .inl le_rfl⟩
  have value : size (2 ^ 52) (e + 1) = 2 ^ 53 * 2 ^ e := by
    rw [size, zpow_add_one₀ (by norm_num)]
    push_cast
    ring
  have below : lower (2 ^ 52) (e + 1) = (2 ^ 53 - 1) * 2 ^ e := by
    rw [lower, if_pos ⟨rfl, by omega⟩, Int.add_sub_cancel, size]
    norm_num
  have low := near.mul.1.1
  rw [carried] at low
  push_cast at low
  have beyond := (less.trans_eq value.symm).trans (lt_upper (2 ^ 52) (e + 1))
  rw [readsAs_iff canonical (by norm_num), below, value]
  refine ⟨⟨by linarith, ?_⟩, fun odd => by omega⟩
  rw [le_div_iff₀ two_pos, mul_two]
  exact (add_lt_add less beyond).le

end Rounded

/-- A quotient of whole numbers is rounded to the double that it is read as, or to infinity if that
is too large. -/
theorem ofRatio_spec (negative : Bool) (num : Nat) {den : Nat} (den_pos : 0 < den) :
    ∃ m e, IsCanonical m e ∧ ReadsAs (num / den) m e ∧
      ofRatio negative num den =
        if largestExponent < e then .infinite negative else .finite negative m e := by
  rw [ofRatio]
  split
  case isTrue none =>
    have near : IsNear ((num : ℚ) / den / 2 ^ smallestExponent) 0 := by
      rw [none]
      constructor <;> norm_num
    refine ⟨0, smallestExponent, ⟨⟨by decide, le_rfl⟩, .inr rfl⟩,
      readsAs_of_isNear_zero near rfl rfl, rfl⟩
  case isFalse nonzero =>
    obtain ⟨least, less, full⟩ := exponentFor_spec (Nat.pos_of_ne_zero nonzero) den_pos
    generalize exponentFor num den = e at *
    have near := isNear_nearestEven (scaledBy num den e).1 (scaledBy_pos den_pos num e)
    rw [scaledBy_div] at near
    simp only []
    generalize nearestEven (scaledBy num den e).1 (scaledBy num den e).2 = n at *
    have bits := near.le less
    by_cases carried : n = Nat.pow 2 53
    · rw [if_pos carried]
      exact ⟨2 ^ 52, e + 1, ⟨⟨by norm_num, by omega⟩, .inl le_rfl⟩,
        readsAs_of_isNear_carry near least less carried, rfl⟩
    · rw [if_neg carried]
      have canonical : IsCanonical n e :=
        ⟨⟨lt_of_le_of_ne bits carried, least⟩, full.imp near.full_le id⟩
      refine ⟨n, e, canonical, ?_, rfl⟩
      rcases Nat.eq_zero_or_pos n with rfl | positive
      · have smallest : e = -1074 := by
          rcases canonical.full with full | smallest
          · omega
          · exact smallest
        exact readsAs_of_isNear_zero near rfl smallest
      · exact readsAs_of_isNear near positive canonical full

/-! ## Reading decimals -/

/-- A positive number below half the least double is read as zero. -/
theorem readsAs_zero_of_lt {x : ℚ} (nonneg : 0 ≤ x) (small : x < 10 ^ (-400 : Int)) :
    ReadsAs x 0 (-1074) := by
  have unit : (0 : ℚ) < 2 ^ (-1074 : Int) := by positivity
  have half : (10 : ℚ) ^ (-400 : Int) ≤ 1 / 2 * 2 ^ (-1074 : Int) := by
    calc (10 : ℚ) ^ (-400 : Int) = (10 ^ (400 : Int))⁻¹ := zpow_neg 10 400
      _ ≤ (2 ^ (1075 : Int))⁻¹ :=
        inv_anti₀ (by positivity) (two_zpow_le_ten_zpow (k := 400) (by norm_num))
      _ = 2 ^ (-1 + -1074 : Int) := (zpow_neg 2 1075).symm
      _ = 1 / 2 * 2 ^ (-1074 : Int) := by
        rw [zpow_add₀ (by norm_num), zpow_neg_one, one_div]
  have near : IsNear (x / 2 ^ (-1074 : Int)) 0 := by
    constructor
    · rw [Nat.cast_zero, zero_sub, zero_add, div_le_iff₀ unit]
      exact ⟨(by norm_num : -(1 / 2 : ℚ) ≤ 0).trans (by positivity), (small.trans_le half).le⟩
    · intro odd
      omega
  exact readsAs_of_isNear_zero near rfl rfl

/-- What is read as a double is not beyond all doubles. -/
theorem ReadsAs.lt {x : ℚ} {m : Nat} (canonical : IsCanonical m e) (largest : e ≤ largestExponent)
    (reads : ReadsAs x m e) : x < 10 ^ (400 : Int) := by
  obtain ⟨n, f, isDouble, isUpper⟩ := exists_upper canonical
  have above := lt_upper m e
  have halfway := (abs_sub_low_le_iff above).mp (isUpper ▸ reads.nearest n f isDouble)
  have bits : ((m + 1 : Nat) : ℚ) ≤ 2 ^ (53 : Int) := by exact_mod_cast canonical.bits
  calc x < upper m e := by linarith
    _ ≤ 2 ^ (53 : Int) * 2 ^ e := by
      rw [upper, size]
      gcongr
    _ = 2 ^ (53 + e) := (zpow_add₀ (by norm_num) 53 e).symm
    _ ≤ 10 ^ (400 : Int) := by
      refine two_zpow_le_ten_zpow (k := 400) ?_
      rw [largestExponent] at largest
      omega

theorem ofRatio_eq {m : Nat} (negative : Bool) (den_pos : 0 < den) (canonical : IsCanonical m e)
    (largest : e ≤ largestExponent) (reads : ReadsAs (num / den) m e) :
    ofRatio negative num den = .finite negative m e := by
  obtain ⟨n, f, isCanonical, isRead, rounded⟩ := ofRatio_spec negative num den_pos
  obtain ⟨rfl, rfl⟩ := reads.unique canonical isCanonical isRead
  rw [rounded, if_neg (not_lt.mpr largest)]

/-- A decimal is read as the double that it is nearest to. -/
theorem ofDecimal_eq {a m : Nat} {p : Int} (negative : Bool) (canonical : IsCanonical m e)
    (largest : e ≤ largestExponent) (reads : ReadsAs (a * 10 ^ p) m e) :
    ofDecimal negative a p = .finite negative m e := by
  simp only [ofDecimal, Bool.or_eq_true, decide_eq_true_eq, Nat.pow_eq]
  split
  case isTrue small =>
    have isZero : ReadsAs (a * 10 ^ p) 0 (-1074) := by
      refine readsAs_zero_of_lt (by positivity) ?_
      rcases Nat.eq_zero_or_pos a with rfl | positive
      · rw [Nat.cast_zero, zero_mul]
        positivity
      · have belowPlace := small.resolve_left positive.ne'
        refine (decimal_bounds positive p).2.trans_le (zpow_le_zpow_right₀ (by norm_num) ?_)
        exact belowPlace.le
    obtain ⟨rfl, rfl⟩ := reads.unique canonical ⟨⟨by decide, le_rfl⟩, .inr rfl⟩ isZero
    rfl
  case isFalse ordinary =>
    split
    case isTrue large =>
      have positive : 0 < a := Nat.pos_of_ne_zero fun zero => ordinary (.inl zero)
      have least := (decimal_bounds positive p).1
      have beyond : (10 : ℚ) ^ (400 : Int) ≤ 10 ^ ((natDigits a).length + p - 1) :=
        zpow_le_zpow_right₀ (by norm_num) (Int.le_sub_one_of_lt large)
      exact absurd (reads.lt canonical largest) (not_lt.mpr (beyond.trans least))
    case isFalse =>
      split
      case isTrue whole =>
        refine ofRatio_eq negative Nat.one_pos canonical largest ?_
        rw [zpow_of_nonneg whole] at reads
        push_cast
        rwa [div_one]
      case isFalse fraction =>
        refine ofRatio_eq negative (Nat.pow_pos (by decide)) canonical largest ?_
        rw [zpow_of_not_nonneg fraction] at reads
        push_cast
        rwa [div_eq_mul_inv]

end ComponentGen.Number.Binary64

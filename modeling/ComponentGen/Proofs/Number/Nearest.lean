import ComponentGen.Number.Shortest
import ComponentGen.Proofs.Number.Numeral
import Mathlib.Algebra.Order.Field.Power
import Mathlib.Algebra.Order.Field.Rat
import Mathlib.Tactic.Linarith
import Mathlib.Tactic.Positivity
import Mathlib.Tactic.Ring

/-!
# Numbers that are read as a double

A number is read as the double that is nearest to it, and as the one with the even mantissa where
two are as near.  These numbers lie between two others, half way to the doubles below and above,
and a decimal is tested against the two in whole numbers.
-/

namespace ComponentGen.Number.Binary64

/-- The number that a mantissa and an exponent stand for. -/
def size (m : Nat) (e : Int) : ℚ := m * 2 ^ e

/-- Mantissas and exponents of doubles.  Exponents have no upper bound here: what is nearer to a
double beyond the largest one is not read as the largest one. -/
structure IsAdmissible (m : Nat) (e : Int) : Prop where
  bits : m < 2 ^ 53
  least : -1074 ≤ e

/-- A mantissa and an exponent that no others with a full mantissa stand for. -/
structure IsCanonical (m : Nat) (e : Int) : Prop extends IsAdmissible m e where
  full : 2 ^ 52 ≤ m ∨ e = -1074

/-- A number is read as a double if no other one is nearer, and none as near unless the mantissa is
even. -/
structure ReadsAs (x : ℚ) (m : Nat) (e : Int) : Prop where
  nearest : ∀ n f, IsAdmissible n f → |x - size m e| ≤ |x - size n f|
  even : ∀ n f, IsAdmissible n f → size n f ≠ size m e → |x - size m e| = |x - size n f| →
    m % 2 = 0

/-! ## Sizes -/

theorem size_pos {m : Nat} (positive : 0 < m) (e : Int) : 0 < size m e := by
  rw [size]
  positivity

theorem size_le_size_iff {m n : Nat} {e : Int} : size m e ≤ size n e ↔ m ≤ n := by
  rw [size, size, mul_le_mul_iff_of_pos_right (zpow_pos (by norm_num) e), Nat.cast_le]

/-- A smaller exponent counts smaller units. -/
theorem size_add (m : Nat) (e : Int) (k : Nat) : size m (e + k) = size (m * 2 ^ k) e := by
  rw [size, size, zpow_add₀ (by norm_num), zpow_natCast]
  push_cast
  ring

/-! ## Neighbours -/

/-- The double next below. -/
def lower (m : Nat) (e : Int) : ℚ :=
  if m = 2 ^ 52 ∧ -1074 < e then size (2 * m - 1) (e - 1) else size (m - 1) e

/-- The double next above. -/
def upper (m : Nat) (e : Int) : ℚ := size (m + 1) e

variable {m n : Nat} {e f : Int} {x y : ℚ}

theorem exists_lower (canonical : IsCanonical m e) :
    ∃ n f, IsAdmissible n f ∧ size n f = lower m e := by
  obtain ⟨⟨bits, least⟩, _⟩ := canonical
  rw [lower]
  split
  case isTrue halves => exact ⟨_, _, ⟨by omega, by omega⟩, rfl⟩
  case isFalse => exact ⟨_, _, ⟨by omega, by omega⟩, rfl⟩

theorem exists_upper (canonical : IsCanonical m e) :
    ∃ n f, IsAdmissible n f ∧ size n f = upper m e := by
  obtain ⟨⟨bits, least⟩, _⟩ := canonical
  by_cases fits : m + 1 < 2 ^ 53
  · exact ⟨m + 1, e, ⟨fits, least⟩, rfl⟩
  · refine ⟨2 ^ 52, e + 1, ⟨by norm_num, by omega⟩, ?_⟩
    have carried : m + 1 = 2 ^ 52 * 2 ^ 1 := by omega
    rw [upper, carried]
    exact size_add (2 ^ 52) e 1

theorem lower_le (m : Nat) (e : Int) : size (m - 1) e ≤ lower m e := by
  rw [lower]
  split
  case isTrue =>
    have unit : size (m - 1) e = size ((m - 1) * 2 ^ 1) (e - 1) := by
      rw [← size_add]
      congr 1
      omega
    rw [unit, size_le_size_iff]
    omega
  case isFalse => exact le_rfl

/-- There is no double between neighbours. -/
theorem size_cases (canonical : IsCanonical m e) (other : IsAdmissible n f) :
    size n f ≤ lower m e ∨ size n f = size m e ∨ upper m e ≤ size n f := by
  by_cases coarse : e ≤ f
  · -- In units of the double the other one is a whole number.
    obtain ⟨k, rfl⟩ := Int.le.dest coarse
    rw [size_add]
    rcases Nat.lt_trichotomy (n * 2 ^ k) m with less | same | more
    · left
      exact (size_le_size_iff.mpr (Nat.le_sub_one_of_lt less)).trans (lower_le m e)
    · exact .inr (.inl (by rw [same]))
    · exact .inr (.inr (size_le_size_iff.mpr more))
  · -- Smaller units leave only numbers with less than a full mantissa of the double's own units.
    left
    obtain ⟨k, rfl⟩ : ∃ k : Nat, f + 1 + k = e := Int.le.dest (Int.not_le.mp coarse)
    obtain ⟨bits, least⟩ := other
    have full : 2 ^ 52 ≤ m := by
      rcases canonical.full with full | smallest
      · exact full
      · omega
    rw [lower]
    split
    case isTrue halves =>
      have unit : f + 1 + k - 1 = f + k := by omega
      rw [unit, size_add, size_le_size_iff, halves.1]
      exact (Nat.le_sub_one_of_lt bits).trans (Nat.le_mul_of_pos_right _ (Nat.two_pow_pos k))
    case isFalse whole =>
      have unit : f + 1 + (k : Int) = f + (k + 1 : Nat) := by omega
      rw [unit, size_add, size_le_size_iff, Nat.pow_succ, Nat.mul_comm (2 ^ k), ← Nat.mul_assoc]
      have more : n ≤ (m - 1) * 2 := by omega
      exact more.trans (Nat.le_mul_of_pos_right _ (Nat.two_pow_pos k))

/-! ## What lies half way to the neighbours -/

section Distances

variable {low high : ℚ} (apart : low < high)
include apart

/-- The higher of two numbers is nearer from half way between them on. -/
theorem abs_sub_high_le_iff : |x - high| ≤ |x - low| ↔ (low + high) / 2 ≤ x := by
  have difference : (x - low) * (x - low) - (x - high) * (x - high) =
      2 * (high - low) * (x - (low + high) / 2) := by ring
  have gap : 0 < 2 * (high - low) := by linarith
  rw [abs_le_iff_mul_self_le, ← sub_nonneg, difference, mul_nonneg_iff_of_pos_left gap, sub_nonneg]

/-- The lower of two numbers is nearer up to half way between them. -/
theorem abs_sub_low_le_iff : |x - low| ≤ |x - high| ↔ x ≤ (low + high) / 2 := by
  have difference : (x - high) * (x - high) - (x - low) * (x - low) =
      2 * (high - low) * ((low + high) / 2 - x) := by ring
  have gap : 0 < 2 * (high - low) := by linarith
  rw [abs_le_iff_mul_self_le, ← sub_nonneg, difference, mul_nonneg_iff_of_pos_left gap, sub_nonneg]

end Distances

theorem lower_lt (positive : 0 < m) (e : Int) : lower m e < size m e := by
  rw [lower]
  split
  case isTrue halves =>
    have unit : size m e = size (m * 2 ^ 1) (e - 1) := by
      rw [← size_add]
      congr 1
      omega
    rw [unit, ← not_le, size_le_size_iff]
    omega
  case isFalse =>
    rw [← not_le, size_le_size_iff]
    omega

theorem lower_le_size (m : Nat) (e : Int) : lower m e ≤ size m e := by
  rcases Nat.eq_zero_or_pos m with rfl | positive
  · rw [lower, if_neg (by omega)]
  · exact (lower_lt positive e).le

theorem lt_upper (m : Nat) (e : Int) : size m e < upper m e := by
  rw [upper, ← not_le, size_le_size_iff]
  omega

/-- The numbers that are read as a double lie between those half way to its neighbours, which are
among them if the mantissa is even. -/
theorem readsAs_iff (canonical : IsCanonical m e) (positive : 0 < m) :
    ReadsAs x m e ↔
      ((lower m e + size m e) / 2 ≤ x ∧ x ≤ (size m e + upper m e) / 2) ∧
        (m % 2 = 1 → (lower m e + size m e) / 2 < x ∧ x < (size m e + upper m e) / 2) := by
  have below := lower_lt positive e
  have above := lt_upper m e
  constructor
  · rintro ⟨nearest, even⟩
    obtain ⟨n, f, isDouble, isLower⟩ := exists_lower canonical
    obtain ⟨k, g, isDouble', isUpper⟩ := exists_upper canonical
    have fromBelow := (abs_sub_high_le_iff below).mp (isLower ▸ nearest n f isDouble)
    have fromAbove := (abs_sub_low_le_iff above).mp (isUpper ▸ nearest k g isDouble')
    refine ⟨⟨fromBelow, fromAbove⟩, fun odd => ⟨?_, ?_⟩⟩
    · by_contra tie
      have same : |x - size m e| = |x - size n f| := by
        rw [isLower]
        exact le_antisymm ((abs_sub_high_le_iff below).mpr fromBelow)
          ((abs_sub_low_le_iff below).mpr (not_lt.mp tie))
      have := even n f isDouble (isLower ▸ below.ne) same
      omega
    · by_contra tie
      have same : |x - size m e| = |x - size k g| := by
        rw [isUpper]
        exact le_antisymm ((abs_sub_low_le_iff above).mpr fromAbove)
          ((abs_sub_high_le_iff above).mpr (not_lt.mp tie))
      have := even k g isDouble' (isUpper ▸ above.ne') same
      omega
  · rintro ⟨⟨fromBelow, fromAbove⟩, strict⟩
    constructor
    case nearest =>
      intro n f isDouble
      rcases size_cases canonical isDouble with less | same | more
      · exact (abs_sub_high_le_iff (less.trans_lt below)).mpr (by linarith)
      · rw [same]
      · exact (abs_sub_low_le_iff (above.trans_le more)).mpr (by linarith)
    case even =>
      intro n f isDouble different tie
      by_contra odd
      obtain ⟨fromBelow, fromAbove⟩ := strict (by omega)
      rcases size_cases canonical isDouble with less | same | more
      · have := (abs_sub_low_le_iff (less.trans_lt below)).mp tie.ge
        linarith
      · exact different same
      · have := (abs_sub_high_le_iff (above.trans_le more)).mp tie.ge
        linarith

/-- A double is read as itself. -/
theorem readsAs_size (canonical : IsCanonical m e) (positive : 0 < m) :
    ReadsAs (size m e) m e := by
  have below := lower_lt positive e
  have above := lt_upper m e
  rw [readsAs_iff canonical positive]
  exact ⟨⟨by linarith, by linarith⟩, fun _ => ⟨by linarith, by linarith⟩⟩

theorem lower_nonneg (m : Nat) (e : Int) : 0 ≤ lower m e := by
  rw [lower, size, size]
  positivity

/-- Zero is not read as a positive double. -/
theorem ReadsAs.pos (canonical : IsCanonical m e) (positive : 0 < m) (reads : ReadsAs x m e) :
    0 < x := by
  have nonneg := lower_nonneg m e
  have positive' := size_pos positive e
  have above := ((readsAs_iff canonical positive).mp reads).1.1
  linarith

/-- What lies between numbers that are read as a double is read as it too. -/
theorem ReadsAs.between {z : ℚ} (canonical : IsCanonical m e) (positive : 0 < m)
    (first : ReadsAs x m e) (second : ReadsAs z m e) (after : x ≤ y) (before : y ≤ z) :
    ReadsAs y m e := by
  rw [readsAs_iff canonical positive] at first second ⊢
  refine ⟨⟨first.1.1.trans after, before.trans second.1.2⟩, fun odd => ⟨?_, ?_⟩⟩
  · exact (first.2 odd).1.trans_le after
  · exact before.trans_lt (second.2 odd).2

/-! ## Only one double is read -/

/-- A number has only one canonical mantissa and exponent. -/
theorem IsCanonical.eq_of_size_eq (first : IsCanonical m e) (second : IsCanonical n f)
    (same : size m e = size n f) : m = n ∧ e = f := by
  have le_of (m n : Nat) (e f : Int) (first : IsCanonical m e) (second : IsCanonical n f)
      (same : size m e = size n f) : f ≤ e := by
    by_contra less
    obtain ⟨k, rfl⟩ := Int.le.dest (not_le.mp less)
    have bits := first.bits
    have full : 2 ^ 52 ≤ n := by
      rcases second.full with full | smallest
      · exact full
      · have := first.least
        omega
    have unit : e + 1 + (k : Int) = e + (k + 1 : Nat) := by omega
    rw [unit, size_add] at same
    have more := size_le_size_iff.mp same.ge
    have power : 1 ≤ 2 ^ k := Nat.one_le_two_pow
    rw [Nat.pow_succ] at more
    nlinarith
  have exponents :=
    le_antisymm (le_of n m f e second first same.symm) (le_of m n e f first second same)
  subst exponents
  exact ⟨le_antisymm (size_le_size_iff.mp same.le) (size_le_size_iff.mp same.ge), rfl⟩

/-- Of two doubles that a number is as near to, one has an odd mantissa. -/
theorem ReadsAs.not_size_lt (first : IsCanonical m e) (second : IsCanonical n f)
    (firstRead : ReadsAs x m e) (secondRead : ReadsAs x n f) : ¬ size m e < size n f := by
  intro less
  have tie : |x - size m e| = |x - size n f| :=
    le_antisymm (firstRead.nearest n f second.toIsAdmissible)
      (secondRead.nearest m e first.toIsAdmissible)
  have even := firstRead.even n f second.toIsAdmissible less.ne' tie
  have evenToo := secondRead.even m e first.toIsAdmissible less.ne tie.symm
  have fits : m + 1 < 2 ^ 53 := by
    have := first.bits
    omega
  have next : IsCanonical (m + 1) e :=
    ⟨⟨fits, first.least⟩, first.full.imp (fun full => by omega) id⟩
  have above : upper m e ≤ size n f := by
    rcases size_cases first second.toIsAdmissible with below | same | above
    · exact absurd (below.trans (lower_le_size m e)) (not_le.mpr less)
    · exact absurd same less.ne'
    · exact above
  have below := (abs_sub_low_le_iff (lt_upper m e)).mp
    (firstRead.nearest (m + 1) e next.toIsAdmissible)
  have halfway := (abs_sub_high_le_iff less).mp tie.ge
  have isNext : size n f = size (m + 1) e := le_antisymm (by rw [upper] at below; linarith) above
  have odd := (second.eq_of_size_eq next isNext).1
  omega

theorem ReadsAs.unique (first : IsCanonical m e) (second : IsCanonical n f)
    (firstRead : ReadsAs x m e) (secondRead : ReadsAs x n f) : m = n ∧ e = f := by
  apply first.eq_of_size_eq second
  exact le_antisymm (not_lt.mp (secondRead.not_size_lt second first firstRead))
    (not_lt.mp (firstRead.not_size_lt first second secondRead))

/-! ## Decimals -/

/-- The number of digits tells how large a number is. -/
theorem natDigits_bounds {n : Nat} (positive : 0 < n) :
    10 ^ ((natDigits n).length - 1) ≤ n ∧ n < 10 ^ (natDigits n).length := by
  have some_digit : 0 < (natDigits n).length := Nat.length_toDigits_pos
  constructor
  · apply Nat.le_of_not_lt
    intro less
    rcases Nat.eq_zero_or_pos ((natDigits n).length - 1) with one | more
    · rw [one, Nat.pow_zero] at less
      omega
    · have shorter := (Nat.length_toDigits_le_iff (by decide) more).mpr less
      rw [← natDigits] at shorter
      omega
  · exact (Nat.length_toDigits_le_iff (by decide) some_digit).mp (Nat.le_refl _)

/-- The number of digits tells how large a decimal is. -/
theorem decimal_bounds {n : Nat} (positive : 0 < n) (p : Int) :
    (10 : ℚ) ^ ((natDigits n).length + p - 1) ≤ n * 10 ^ p ∧
      (n : ℚ) * 10 ^ p < 10 ^ ((natDigits n).length + p) := by
  obtain ⟨least, less⟩ := natDigits_bounds positive
  have some_digit : 0 < (natDigits n).length := Nat.length_toDigits_pos
  have exponent : ((natDigits n).length : Int) + p - 1 = ((natDigits n).length - 1 : Nat) + p := by
    omega
  rw [exponent, zpow_add₀ (by norm_num), zpow_add₀ (by norm_num), zpow_natCast, zpow_natCast]
  have least' : (10 : ℚ) ^ ((natDigits n).length - 1) ≤ n := by exact_mod_cast least
  have less' : (n : ℚ) < 10 ^ (natDigits n).length := by exact_mod_cast less
  constructor <;> gcongr

theorem two_pow_le_ten_pow (k : Nat) : 2 ^ (3 * k) ≤ 10 ^ k := by
  rw [Nat.pow_mul]
  exact Nat.pow_le_pow_left (by decide) k

theorem two_zpow_le_ten_zpow {q : Int} {k : Nat} (le : q ≤ (3 * k : Nat)) :
    (2 : ℚ) ^ q ≤ 10 ^ (k : Int) := by
  calc (2 : ℚ) ^ q ≤ 2 ^ ((3 * k : Nat) : Int) := zpow_le_zpow_right₀ (by norm_num) le
    _ ≤ 10 ^ (k : Int) := by
      rw [zpow_natCast, zpow_natCast]
      exact_mod_cast two_pow_le_ten_pow k

/-! ## Comparing in whole numbers -/

theorem zpow_of_nonneg {q : Int} (nonneg : 0 ≤ q) (b : ℚ) : b ^ q = b ^ q.toNat := by
  rw [← zpow_natCast, Int.toNat_of_nonneg nonneg]

theorem zpow_of_not_nonneg {q : Int} (negative : ¬ 0 ≤ q) (b : ℚ) :
    b ^ q = (b ^ (-q).toNat)⁻¹ := by
  rw [← zpow_natCast, Int.toNat_of_nonneg (by omega), zpow_neg, inv_inv]

theorem zpow_eq_div (b : ℚ) (q : Int) : b ^ q = b ^ q.toNat / b ^ (-q).toNat := by
  by_cases nonneg : 0 ≤ q
  · have none : (-q).toNat = 0 := by omega
    rw [none, pow_zero, div_one, zpow_of_nonneg nonneg]
  · have none : q.toNat = 0 := by omega
    rw [none, pow_zero, one_div, zpow_of_not_nonneg nonneg]

theorem decimalLe_iff (a : Nat) (p : Int) (b : Nat) (q : Int) :
    decimalLe a p b q = true ↔ (a : ℚ) * 10 ^ p ≤ size b q := by
  rw [decimalLe, decide_eq_true_iff, size, zpow_eq_div 10, zpow_eq_div 2, mul_div_assoc',
    mul_div_assoc', div_le_div_iff₀ (by positivity) (by positivity)]
  exact_mod_cast Iff.rfl

theorem binaryLe_iff (b : Nat) (q : Int) (a : Nat) (p : Int) :
    binaryLe b q a p = true ↔ size b q ≤ (a : ℚ) * 10 ^ p := by
  rw [binaryLe, decide_eq_true_iff, size, zpow_eq_div 10, zpow_eq_div 2, mul_div_assoc',
    mul_div_assoc', div_le_div_iff₀ (by positivity) (by positivity)]
  exact_mod_cast Iff.rfl

/-- A double in quarters of its unit. -/
theorem size_eq_quarters (m : Nat) (e : Int) : size m e = 4 * m * 2 ^ (e - 2) := by
  rw [size, zpow_sub₀ (by norm_num)]
  ring

theorem size_above (m : Nat) (e : Int) :
    size (4 * m + 2) (e - 2) = (size m e + upper m e) / 2 := by
  rw [upper, size_eq_quarters m, size_eq_quarters (m + 1), size]
  push_cast
  ring

theorem size_below (positive : 0 < m) (e : Int) :
    size (if m = 2 ^ 52 ∧ -1074 < e then 4 * m - 1 else 4 * m - 2) (e - 2) =
      (lower m e + size m e) / 2 := by
  obtain ⟨k, rfl⟩ := Nat.exists_eq_succ_of_ne_zero positive.ne'
  rw [lower]
  split
  case isTrue halves =>
    have unit : (2 : ℚ) ^ (e - 1) = 2 * 2 ^ (e - 2) := by
      rw [← zpow_one_add₀ (by norm_num)]
      congr 1
      omega
    have quarters : 4 * k.succ - 1 = 4 * k + 3 := by omega
    have twoHalves : 2 * k.succ - 1 = 2 * k + 1 := by omega
    rw [quarters, twoHalves, size_eq_quarters k.succ, size, size, unit]
    push_cast
    ring
  case isFalse =>
    have quarters : 4 * k.succ - 2 = 4 * k + 2 := by omega
    rw [quarters, size_above, Nat.succ_sub_one, upper]

/-- Decimals that read back are read as the double. -/
theorem readsBack_iff (canonical : IsCanonical m e) (positive : 0 < m) (a : Nat) (p : Int) :
    readsBack m e a p = true ↔ ReadsAs (a * 10 ^ p) m e := by
  rw [readsAs_iff canonical positive, ← size_above, ← size_below positive, readsBack]
  by_cases even : m % 2 = 0
  · have noStrict : ¬ m % 2 = 1 := by omega
    rw [if_pos even, Bool.and_eq_true, binaryLe_iff, decimalLe_iff]
    exact ⟨fun between => ⟨between, fun odd => absurd odd noStrict⟩, fun between => between.1⟩
  · have odd : m % 2 = 1 := by omega
    rw [if_neg even, Bool.and_eq_true, Bool.not_eq_true', Bool.not_eq_true', ← Bool.not_eq_true,
      ← Bool.not_eq_true, decimalLe_iff, binaryLe_iff, not_le, not_le]
    exact ⟨fun between => ⟨⟨between.1.le, between.2.le⟩, fun _ => between⟩,
      fun between => between.2 odd⟩

end ComponentGen.Number.Binary64

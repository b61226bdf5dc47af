import ComponentGen.Proofs.Number.Nearest
import ComponentGen.Proofs.Number.Numeral
import Mathlib.Data.Nat.Cast.Order.Field
import Mathlib.Tactic.FieldSimp

/-!
# The shortest decimal of a double

A decimal grid has the multiples of a power of ten.  Next to a double, a grid has one number below
and one above, and if anything on the grid is read as the double, one of the two is.  The search
goes from the grid of the leading digit to finer ones.  So what is found first has the fewest digits
of all decimals that are read as the double, and it is the nearest of those.
-/

namespace ComponentGen.Number.Binary64

/-! ## The place of the leading digit -/

theorem placesBelowOne_spec {num den fuel : Nat} (enough : den ≤ num * 10 ^ fuel) :
    den ≤ num * 10 ^ placesBelowOne num den fuel ∧
      ∀ places < placesBelowOne num den fuel, num * 10 ^ places < den := by
  induction fuel generalizing num with
  | zero => exact ⟨enough, by simp [placesBelowOne]⟩
  | succ fuel ih =>
      rw [placesBelowOne]
      split
      case isTrue reached => exact ⟨by simpa using reached, by simp⟩
      case isFalse short =>
        have enough' : den ≤ num * 10 * 10 ^ fuel := by rwa [mul_assoc, ← pow_succ']
        obtain ⟨reaches, before⟩ := ih enough'
        refine ⟨by rwa [pow_succ', ← mul_assoc], ?_⟩
        intro places less
        cases places with
        | zero => simpa using short
        | succ places =>
            rw [pow_succ', ← mul_assoc]
            exact before places (by omega)

theorem natPlace_bounds {num den : Nat} (den_pos : 0 < den) (whole : den ≤ num) :
    (10 : ℚ) ^ ((natDigits (num / den)).length - 1) ≤ num / den ∧
      (num : ℚ) / den < 10 ^ (natDigits (num / den)).length := by
  have den_pos' : (0 : ℚ) < den := by exact_mod_cast den_pos
  obtain ⟨least, less⟩ := natDigits_bounds (Nat.div_pos whole den_pos)
  rw [le_div_iff₀ den_pos', div_lt_iff₀ den_pos']
  constructor
  · exact_mod_cast (Nat.le_div_iff_mul_le den_pos).mp least
  · exact_mod_cast (Nat.div_lt_iff_lt_mul den_pos).mp less

theorem fractionPlace_bounds {num den places : Nat} (den_pos : 0 < den)
    (reaches : den ≤ num * 10 ^ (places + 1)) (short : num * 10 ^ places < den) :
    ((10 : ℚ) ^ (places + 1))⁻¹ ≤ num / den ∧ (num : ℚ) / den < (10 ^ places)⁻¹ := by
  have den_pos' : (0 : ℚ) < den := by exact_mod_cast den_pos
  rw [inv_eq_one_div, inv_eq_one_div, div_le_div_iff₀ (by positivity) den_pos',
    div_lt_div_iff₀ den_pos' (by positivity), one_mul]
  constructor
  · exact_mod_cast reaches
  · exact_mod_cast short

/-- The leading digit of a quotient stands at its place. -/
theorem leadingPlace_bounds {num den : Nat} (den_pos : 0 < den)
    (enough : den ≤ num * 10 ^ 400) :
    (10 : ℚ) ^ (leadingPlace num den - 1) ≤ num / den ∧
      (num : ℚ) / den < 10 ^ leadingPlace num den := by
  rw [leadingPlace]
  split
  case isTrue whole =>
    obtain ⟨k, length⟩ : ∃ k, (natDigits (num / den)).length = k + 1 :=
      Nat.exists_eq_succ_of_ne_zero Nat.length_toDigits_pos.ne'
    have bounds := natPlace_bounds den_pos whole
    rw [length, Nat.add_sub_cancel] at bounds
    have place : Int.ofNat (k + 1) - 1 = k := by simp
    rw [length, place, Int.ofNat_eq_natCast, zpow_natCast, zpow_natCast]
    exact bounds
  case isFalse fraction =>
    obtain ⟨reaches, before⟩ := placesBelowOne_spec enough
    have moved : placesBelowOne num den 400 ≠ 0 := by
      intro none
      rw [none] at reaches
      omega
    obtain ⟨k, places⟩ := Nat.exists_eq_succ_of_ne_zero moved
    rw [places] at reaches before
    have above : 1 - Int.ofNat k.succ = -(k : Int) := by simp
    have at_place : -(k : Int) - 1 = -(k + 1 : Nat) := by omega
    rw [places, above, at_place, zpow_neg, zpow_neg, zpow_natCast, zpow_natCast]
    exact fractionPlace_bounds den_pos reaches (before k (Nat.lt_succ_self k))

variable {m : Nat} {e p : Int}

theorem magnitude_pos (m : Nat) (e : Int) : 0 < (magnitude m e).2 := by
  rw [magnitude]
  split
  case isTrue => exact Nat.one_pos
  case isFalse => exact Nat.two_pow_pos _

theorem magnitude_div (m : Nat) (e : Int) :
    ((magnitude m e).1 : ℚ) / (magnitude m e).2 = size m e := by
  rw [magnitude, size]
  split
  case isTrue whole =>
    rw [zpow_of_nonneg whole]
    push_cast [Nat.pow_eq]
    rw [div_one]
  case isFalse fraction =>
    rw [zpow_of_not_nonneg fraction]
    push_cast [Nat.pow_eq]
    rw [div_eq_mul_inv]

/-- No double is so small that the fuel does not reach its leading digit. -/
theorem magnitude_le (admissible : IsAdmissible m e) (positive : 0 < m) :
    (magnitude m e).2 ≤ (magnitude m e).1 * 10 ^ 400 := by
  rw [magnitude]
  split
  case isTrue =>
    exact Nat.mul_pos (Nat.mul_pos positive (Nat.two_pow_pos _)) (by positivity)
  case isFalse =>
    have least := admissible.least
    calc 2 ^ (-e).toNat ≤ 2 ^ (3 * 400) := Nat.pow_le_pow_right (by decide) (by omega)
      _ ≤ 10 ^ 400 := two_pow_le_ten_pow 400
      _ ≤ m * 10 ^ 400 := Nat.le_mul_of_pos_left _ positive

/-- The place of the leading digit of a double. -/
def place (m : Nat) (e : Int) : Int := leadingPlace (magnitude m e).1 (magnitude m e).2

theorem place_bounds (admissible : IsAdmissible m e) (positive : 0 < m) :
    (10 : ℚ) ^ (place m e - 1) ≤ size m e ∧ size m e < 10 ^ place m e := by
  rw [place, ← magnitude_div]
  exact leadingPlace_bounds (magnitude_pos m e) (magnitude_le admissible positive)

/-! ## Grids -/

section Grid

variable (goesUp : Nat → Bool) (m : Nat) (e p : Int)

/-- A double lies between a number on a grid and the next one. -/
structure Brackets (low : Nat) : Prop where
  le : (low : ℚ) * 10 ^ p ≤ size m e
  lt : size m e < ((low + 1 : Nat) : ℚ) * 10 ^ p

/-- What is chosen of the two numbers on a grid around a double: one that is read as the double, and
the nearer one if both are. -/
inductive Chosen (low : Nat) : Option Nat → Prop where
  | neither (lowFails : ¬ ReadsAs (low * 10 ^ p) m e)
      (highFails : ¬ ReadsAs ((low + 1 : Nat) * 10 ^ p) m e) : Chosen low none
  | low (reads : ReadsAs (low * 10 ^ p) m e)
      (nearer : ReadsAs ((low + 1 : Nat) * 10 ^ p) m e →
        size m e - low * 10 ^ p < (low + 1 : Nat) * 10 ^ p - size m e ∨
          size m e - low * 10 ^ p = (low + 1 : Nat) * 10 ^ p - size m e ∧ goesUp low = false) :
      Chosen low (some low)
  | high (reads : ReadsAs ((low + 1 : Nat) * 10 ^ p) m e)
      (nearer : ReadsAs (low * 10 ^ p) m e →
        (low + 1 : Nat) * 10 ^ p - size m e < size m e - low * 10 ^ p ∨
          (low + 1 : Nat) * 10 ^ p - size m e = size m e - low * 10 ^ p ∧ goesUp low = true) :
      Chosen low (some (low + 1))

/-- A double divided by the step of a grid, with what is left in parts of a step. -/
structure GridDivision (low rest bottom : Nat) : Prop where
  bottom_pos : 0 < bottom
  rest_lt : rest < bottom
  divided : size m e = (low + rest / bottom) * 10 ^ p

end Grid

theorem gridDivision (m : Nat) (e p : Int) :
    GridDivision m e p
      (m * 2 ^ e.toNat * 10 ^ (-p).toNat / (2 ^ (-e).toNat * 10 ^ p.toNat))
      (m * 2 ^ e.toNat * 10 ^ (-p).toNat % (2 ^ (-e).toNat * 10 ^ p.toNat))
      (2 ^ (-e).toNat * 10 ^ p.toNat) := by
  have bottom_pos : 0 < 2 ^ (-e).toNat * 10 ^ p.toNat := by positivity
  refine ⟨bottom_pos, Nat.mod_lt _ bottom_pos, ?_⟩
  have quotient := Nat.div_add_mod (m * 2 ^ e.toNat * 10 ^ (-p).toNat)
    (2 ^ (-e).toNat * 10 ^ p.toNat)
  generalize m * 2 ^ e.toNat * 10 ^ (-p).toNat / (2 ^ (-e).toNat * 10 ^ p.toNat) = low at *
  generalize m * 2 ^ e.toNat * 10 ^ (-p).toNat % (2 ^ (-e).toNat * 10 ^ p.toNat) = rest at *
  have quotient' : ((2 : ℚ) ^ (-e).toNat * 10 ^ p.toNat) * low + rest =
      m * 2 ^ e.toNat * 10 ^ (-p).toNat := by exact_mod_cast quotient
  rw [size, zpow_eq_div 2, zpow_eq_div 10]
  push_cast
  field_simp
  linarith

section Division

variable {low rest bottom : Nat} (division : GridDivision m e p low rest bottom)
include division

theorem GridDivision.brackets : Brackets m e p low := by
  have bottom_pos : (0 : ℚ) < bottom := by exact_mod_cast division.bottom_pos
  have step_pos : (0 : ℚ) < 10 ^ p := by positivity
  have part_nonneg : (0 : ℚ) ≤ rest / bottom := by positivity
  have part_lt : (rest : ℚ) / bottom < 1 := by
    rw [div_lt_one bottom_pos]
    exact_mod_cast division.rest_lt
  constructor
  · rw [division.divided]
    exact mul_le_mul_of_nonneg_right (by linarith) step_pos.le
  · rw [division.divided]
    push_cast
    exact mul_lt_mul_of_pos_right (by linarith) step_pos

/-- How much nearer the lower number is can be seen from what is left. -/
theorem GridDivision.difference :
    ((low + 1 : Nat) : ℚ) * 10 ^ p - size m e - (size m e - low * 10 ^ p) =
      (bottom - (2 * rest : Nat)) * (10 ^ p / bottom) := by
  have bottom_pos : (0 : ℚ) < bottom := by exact_mod_cast division.bottom_pos
  rw [division.divided]
  push_cast
  field_simp
  ring

theorem GridDivision.lt_iff :
    size m e - low * 10 ^ p < (low + 1 : Nat) * 10 ^ p - size m e ↔ 2 * rest < bottom := by
  have bottom_pos : (0 : ℚ) < bottom := by exact_mod_cast division.bottom_pos
  rw [← sub_pos, division.difference, mul_pos_iff_of_pos_right (by positivity), sub_pos,
    Nat.cast_lt]

theorem GridDivision.eq_iff :
    size m e - low * 10 ^ p = (low + 1 : Nat) * 10 ^ p - size m e ↔ 2 * rest = bottom := by
  have bottom_pos : (0 : ℚ) < bottom := by exact_mod_cast division.bottom_pos
  have part_pos : (0 : ℚ) < 10 ^ p / bottom := by positivity
  rw [eq_comm, ← sub_eq_zero, division.difference, mul_eq_zero, or_iff_left part_pos.ne',
    sub_eq_zero, Nat.cast_inj, eq_comm]

/-- If both neighbours are read as the double, the rest of the division decides. -/
theorem GridDivision.chosen (goesUp : Nat → Bool) (lowReads : ReadsAs (low * 10 ^ p) m e)
    (highReads : ReadsAs ((low + 1 : Nat) * 10 ^ p) m e) :
    Chosen goesUp m e p low
      (some
        (if 2 * rest < bottom || (2 * rest == bottom && !goesUp low) then low else low + 1)) := by
  rcases Nat.lt_trichotomy (2 * rest) bottom with less | same | more
  · rw [decide_eq_true less, Bool.true_or, if_pos rfl]
    exact .low lowReads fun _ => .inl (division.lt_iff.mpr less)
  · have distances := division.eq_iff.mpr same
    rw [decide_eq_false same.not_lt, Bool.false_or, beq_iff_eq.mpr same, Bool.true_and]
    cases up : goesUp low with
    | false => exact .low lowReads fun _ => .inr ⟨distances, up⟩
    | true => exact .high highReads fun _ => .inr ⟨distances.symm, up⟩
  · have further := not_lt.mp (mt division.lt_iff.mp more.not_gt)
    have different := mt division.eq_iff.mp more.ne'
    rw [decide_eq_false more.not_gt, Bool.false_or, beq_eq_false_iff_ne.mpr more.ne',
      Bool.false_and, if_neg Bool.false_ne_true]
    exact .high highReads fun _ => .inl (lt_of_le_of_ne further (Ne.symm different))

end Division

theorem exists_chosen (goesUp : Nat → Bool) (p : Int) (canonical : IsCanonical m e)
    (positive : 0 < m) :
    ∃ low, Brackets m e p low ∧ Chosen goesUp m e p low (onGrid? goesUp m e p) := by
  have division := gridDivision m e p
  simp only [onGrid?, Nat.pow_eq]
  generalize m * 2 ^ e.toNat * 10 ^ (-p).toNat / (2 ^ (-e).toNat * 10 ^ p.toNat) = low at *
  have low_iff := readsBack_iff canonical positive low p
  have high_iff := readsBack_iff canonical positive (low + 1) p
  refine ⟨low, division.brackets, ?_⟩
  cases lowReads : readsBack m e low p <;> cases highReads : readsBack m e (low + 1) p
  all_goals
    rw [lowReads] at low_iff
    rw [highReads] at high_iff
  · exact .neither (by simpa using low_iff) (by simpa using high_iff)
  · exact .high (high_iff.mp rfl) (fun reads => absurd reads (by simpa using low_iff))
  · exact .low (low_iff.mp rfl) (fun reads => absurd reads (by simpa using high_iff))
  · exact division.chosen goesUp (low_iff.mp rfl) (high_iff.mp rfl)

section Brackets

variable {goesUp : Nat → Bool} {low a c : Nat}

theorem grid_lt_iff : (a : ℚ) * 10 ^ p < c * 10 ^ p ↔ a < c := by
  rw [mul_lt_mul_iff_of_pos_right (by positivity), Nat.cast_lt]

theorem grid_le_iff : (a : ℚ) * 10 ^ p ≤ c * 10 ^ p ↔ a ≤ c := by
  rw [mul_le_mul_iff_of_pos_right (by positivity), Nat.cast_le]

variable (brackets : Brackets m e p low)
include brackets

theorem Brackets.distance_of_le (below : c ≤ low) :
    |(c : ℚ) * 10 ^ p - size m e| = size m e - c * 10 ^ p := by
  rw [abs_of_nonpos, neg_sub]
  rw [sub_nonpos]
  exact (grid_le_iff.mpr below).trans brackets.le

theorem Brackets.distance_of_lt (above : low < c) :
    |(c : ℚ) * 10 ^ p - size m e| = c * 10 ^ p - size m e := by
  rw [abs_of_nonneg]
  rw [sub_nonneg]
  exact brackets.lt.le.trans (grid_le_iff.mpr above)

variable (canonical : IsCanonical m e) (positive : 0 < m) (reads : ReadsAs (c * 10 ^ p) m e)
include canonical positive reads

/-- If something below a double is read as it, so is what is next below it on the grid. -/
theorem Brackets.readsAs_low (below : c ≤ low) : ReadsAs (low * 10 ^ p) m e :=
  reads.between canonical positive (readsAs_size canonical positive) (grid_le_iff.mpr below)
    brackets.le

/-- If something above a double is read as it, so is what is next above it on the grid. -/
theorem Brackets.readsAs_high (above : low < c) : ReadsAs ((low + 1 : Nat) * 10 ^ p) m e :=
  (readsAs_size canonical positive).between canonical positive reads brackets.lt.le
    (grid_le_iff.mpr above)

end Brackets

/-- If nothing is chosen, nothing on the grid is read as the double. -/
theorem onGrid?_eq_none {goesUp : Nat → Bool} (canonical : IsCanonical m e) (positive : 0 < m)
    (none : onGrid? goesUp m e p = none) (c : Nat) : ¬ ReadsAs (c * 10 ^ p) m e := by
  obtain ⟨low, brackets, chosen⟩ := exists_chosen goesUp p canonical positive
  rw [none] at chosen
  cases chosen with
  | neither lowFails highFails =>
      intro reads
      rcases Nat.lt_or_ge low c with above | below
      · exact highFails (brackets.readsAs_high canonical positive reads above)
      · exact lowFails (brackets.readsAs_low canonical positive reads below)

/-- On a grid, the best number for a double: it is read as the double, and any other that is read so
is not as near, or as near and `goesUp` says of the lower one that the upper one is better. -/
structure IsBestOnGrid (goesUp : Nat → Bool) (m : Nat) (e p : Int) (a : Nat) : Prop where
  reads : ReadsAs (a * 10 ^ p) m e
  best : ∀ c : Nat, ReadsAs (c * 10 ^ p) m e → c ≠ a →
    |(a : ℚ) * 10 ^ p - size m e| < |(c : ℚ) * 10 ^ p - size m e| ∨
      |(a : ℚ) * 10 ^ p - size m e| = |(c : ℚ) * 10 ^ p - size m e| ∧
        goesUp (min a c) = decide (c < a)

theorem IsBestOnGrid.nearest {goesUp : Nat → Bool} {a : Nat} (best : IsBestOnGrid goesUp m e p a)
    (c : Nat) (reads : ReadsAs (c * 10 ^ p) m e) :
    |(a : ℚ) * 10 ^ p - size m e| ≤ |(c : ℚ) * 10 ^ p - size m e| := by
  by_cases same : c = a
  · rw [same]
  · rcases best.best c reads same with nearer | ⟨asNear, _⟩
    · exact nearer.le
    · exact asNear.le

theorem isBestOnGrid_of_onGrid? {goesUp : Nat → Bool} (canonical : IsCanonical m e)
    (positive : 0 < m) {a : Nat} (found : onGrid? goesUp m e p = some a) :
    IsBestOnGrid goesUp m e p a := by
  obtain ⟨low, brackets, chosen⟩ := exists_chosen goesUp p canonical positive
  rw [found] at chosen
  generalize same : some a = result at chosen
  cases chosen with
  | neither => cases same
  | low reads nearer =>
      cases same
      refine ⟨reads, fun c other different => ?_⟩
      rw [brackets.distance_of_le le_rfl]
      rcases Nat.lt_or_ge a c with above | below
      · have further := grid_le_iff (p := p).mpr above
        rw [brackets.distance_of_lt above]
        rcases nearer (brackets.readsAs_high canonical positive other above) with less | ⟨same, up⟩
        · exact .inl (by linarith)
        · rcases further.lt_or_eq with beyond | next
          · exact .inl (by linarith)
          · refine .inr ⟨by linarith, ?_⟩
            rw [min_eq_left above.le, up, decide_eq_false above.not_gt]
      · have further := grid_lt_iff (p := p).mpr (lt_of_le_of_ne below different)
        rw [brackets.distance_of_le below]
        exact .inl (by linarith)
  | high reads nearer =>
      cases same
      refine ⟨reads, fun c other different => ?_⟩
      rw [brackets.distance_of_lt (Nat.lt_succ_self low)]
      rcases Nat.lt_or_ge low c with above | below
      · have further := grid_lt_iff (p := p).mpr (lt_of_le_of_ne above (Ne.symm different))
        rw [brackets.distance_of_lt above]
        exact .inl (by linarith)
      · rw [brackets.distance_of_le below]
        have further := grid_le_iff (p := p).mpr below
        rcases nearer (brackets.readsAs_low canonical positive other below) with less | ⟨same, up⟩
        · exact .inl (by linarith)
        · rcases below.lt_or_eq with beyond | rfl
          · have further := grid_lt_iff (p := p).mpr beyond
            exact .inl (by linarith)
          · refine .inr ⟨same, ?_⟩
            rw [min_eq_right (Nat.le_succ c), up, decide_eq_true (Nat.lt_succ_self c)]

/-! ## The coarsest grid -/

/-- The search goes from grid to grid and stops at the first one with something on it. -/
theorem shortestFrom_spec {goesUp : Nat → Bool} {m : Nat} {e place : Int} {first fuel : Nat}
    (reached : ∃ k, first ≤ k ∧ k < first + fuel ∧ ∃ a, onGrid? goesUp m e (place - k) = some a) :
    ∃ k a, first ≤ k ∧ shortestFrom goesUp m e place first fuel = (a, place - k) ∧
      onGrid? goesUp m e (place - k) = some a ∧
      ∀ d, first ≤ d → d < k → onGrid? goesUp m e (place - d) = none := by
  induction fuel generalizing first with
  | zero =>
      obtain ⟨k, from_first, within, _⟩ := reached
      omega
  | succ fuel ih =>
      rw [shortestFrom]
      cases found : onGrid? goesUp m e (place - first) with
      | some a => exact ⟨first, a, le_rfl, rfl, found, fun d after before => by omega⟩
      | none =>
          obtain ⟨k, after, within, a, atK⟩ := reached
          have later : first + 1 ≤ k := by
            rcases after.lt_or_eq with later | rfl
            · exact later
            · rw [found] at atK
              cases atK
          obtain ⟨j, b, from_next, result, onGrid, before⟩ :=
            ih ⟨k, later, by omega, a, atK⟩
          refine ⟨j, b, by omega, result, onGrid, ?_⟩
          intro d fromFirst less
          rcases fromFirst.lt_or_eq with next | rfl
          · exact before d next less
          · exact found

/-- The double next below is at least half a unit away. -/
theorem lower_le_sub (positive : 0 < m) (e : Int) : lower m e ≤ size m e - 2 ^ e / 2 := by
  have unit : (0 : ℚ) < 2 ^ e := by positivity
  obtain ⟨k, rfl⟩ := Nat.exists_eq_succ_of_ne_zero positive.ne'
  rw [lower]
  split
  case isTrue =>
    have halves : (2 : ℚ) ^ (e - 1) = 2 ^ e / 2 := zpow_sub_one₀ (by norm_num) e
    have oneLess : 2 * k.succ - 1 = 2 * k + 1 := by omega
    rw [size, size, halves, oneLess]
    push_cast
    linarith
  case isFalse =>
    rw [Nat.succ_sub_one, size, size]
    push_cast
    linarith

/-- On the grid of 18 digits there is always a number that is read as the double: its steps are
smaller than a quarter of the double's unit. -/
theorem exists_onGrid? (goesUp : Nat → Bool) (canonical : IsCanonical m e) (positive : 0 < m) :
    ∃ a, onGrid? goesUp m e (place m e - 18) = some a := by
  obtain ⟨low, brackets, _⟩ := exists_chosen goesUp (place m e - 18) canonical positive
  have step : (10 : ℚ) ^ (place m e - 18) ≤ 2 ^ e / 4 := by
    have leading : (10 : ℚ) ^ (place m e - 1) = 10 ^ (place m e - 18) * 10 ^ 17 := by
      rw [← zpow_natCast, ← zpow_add₀ (by norm_num)]
      congr 1
      omega
    have least := (place_bounds canonical.toIsAdmissible positive).1
    have bits : size m e ≤ 2 ^ 53 * 2 ^ e := by
      rw [size]
      have bits : (m : ℚ) ≤ 2 ^ 53 := by exact_mod_cast canonical.bits.le
      gcongr
    have unit : (0 : ℚ) < 2 ^ e := by positivity
    norm_num at leading bits
    linarith
  have reads : ReadsAs (low * 10 ^ (place m e - 18)) m e := by
    have least := brackets.le
    have next := brackets.lt
    have below := lower_le_sub positive e
    have above := lt_upper m e
    push_cast at next
    rw [readsAs_iff canonical positive]
    exact ⟨⟨by linarith, by linarith⟩, fun _ => ⟨by linarith, by linarith⟩⟩
  cases found : onGrid? goesUp m e (place m e - 18) with
  | some a => exact ⟨a, rfl⟩
  | none => exact absurd reads (onGrid?_eq_none canonical positive found low)

/-- What is found is the best number on the coarsest grid with a number that is read as the
double. -/
theorem shortest_spec (goesUp : Nat → Bool) (canonical : IsCanonical m e) (positive : 0 < m) :
    ∃ (k a : Nat), 1 ≤ k ∧ shortest goesUp m e = (a, place m e - k) ∧
      IsBestOnGrid goesUp m e (place m e - k) a ∧
      ∀ d : Nat, 1 ≤ d → d < k → ∀ c : Nat, ¬ ReadsAs (c * 10 ^ (place m e - d)) m e := by
  have reached : ∃ k : Nat, 1 ≤ k ∧ k < 1 + 20 ∧
      ∃ a, onGrid? goesUp m e (place m e - k) = some a :=
    ⟨18, by omega, by omega, exists_onGrid? goesUp canonical positive⟩
  obtain ⟨k, a, some_digit, result, onGrid, before⟩ := shortestFrom_spec reached
  refine ⟨k, a, some_digit, result, isBestOnGrid_of_onGrid? canonical positive onGrid, ?_⟩
  intro d from_one less c
  exact onGrid?_eq_none canonical positive (before d from_one less) c

/-! ## Few digits -/

/-- A number can be written with `n` digits, and zeros in front of them or behind. -/
def HasDigits (x : ℚ) (n : Nat) : Prop := ∃ (a : Nat) (q : Int), a < 10 ^ n ∧ x = a * 10 ^ q

/-- The shortest decimal of a double: it is read as the double, no number with fewer digits is, and
any other with as few digits that is read so is not as near, or it is as near, stands on the same
grid, and `goesUp` says of the lower one which of the two it is. -/
structure IsShortest (goesUp : Nat → Bool) (m : Nat) (e : Int) (a : Nat) (p : Int) : Prop where
  reads : ReadsAs (a * 10 ^ p) m e
  fewest : ∀ y n, ReadsAs y m e → HasDigits y n → HasDigits (a * 10 ^ p) n
  best : ∀ y, ReadsAs y m e → (∀ n, HasDigits (a * 10 ^ p) n → HasDigits y n) → y ≠ a * 10 ^ p →
    |(a : ℚ) * 10 ^ p - size m e| < |y - size m e| ∨
      |(a : ℚ) * 10 ^ p - size m e| = |y - size m e| ∧
        ∃ c : Nat, y = c * 10 ^ p ∧ goesUp (min a c) = decide (c < a)

/-- Zeros behind the digits stand for a higher place. -/
theorem mul_ten_pow_mul (b k : Nat) {q r : Int} (sum : k + q = r) :
    ((b * 10 ^ k : Nat) : ℚ) * 10 ^ q = b * 10 ^ r := by
  rw [← sum, zpow_add₀ (by norm_num), zpow_natCast]
  push_cast
  rw [mul_assoc]

theorem ten_pow_mul (k : Nat) {q r : Int} (sum : k + q = r) :
    ((10 ^ k : Nat) : ℚ) * 10 ^ q = 10 ^ r := by
  simpa using mul_ten_pow_mul 1 k sum

theorem HasDigits.mono {x : ℚ} {n k : Nat} (digits : HasDigits x n) (le : n ≤ k) :
    HasDigits x k := by
  obtain ⟨a, q, less, rfl⟩ := digits
  exact ⟨a, q, less.trans_le (Nat.pow_le_pow_right (by decide) le), rfl⟩

/-- A number on a coarse grid is on a finer one. -/
theorem exists_on_finer_grid {q : Int} (finer : p ≤ q) (b : Nat) :
    ∃ c : Nat, (b : ℚ) * 10 ^ q = c * 10 ^ p := by
  obtain ⟨k, rfl⟩ := Int.le.dest finer
  exact ⟨b * 10 ^ k, (mul_ten_pow_mul b k (Int.add_comm k p)).symm⟩

/-- A number with few digits that is not on a grid is small. -/
theorem lt_of_few_digits {b n k : Nat} {q place : Int} (few : b < 10 ^ n) (le : n ≤ k)
    (finer : q < place - k) : (b : ℚ) * 10 ^ q < 10 ^ (place - 1) := by
  calc (b : ℚ) * 10 ^ q < (10 ^ n : Nat) * 10 ^ q := grid_lt_iff.mpr few
    _ = 10 ^ (n + q) := ten_pow_mul n rfl
    _ ≤ 10 ^ (place - 1) := zpow_le_zpow_right₀ (by norm_num) (by omega)

section Search

variable {goesUp : Nat → Bool} {k a : Nat} (canonical : IsCanonical m e) (positive : 0 < m)
include canonical positive

/-- If less than the leading digit alone is read as a double, so is the leading digit's one. -/
theorem readsAs_leading {y : ℚ} (reads : ReadsAs y m e) (small : y ≤ 10 ^ (place m e - 1)) :
    ReadsAs (10 ^ (place m e - 1)) m e :=
  reads.between canonical positive (readsAs_size canonical positive) small
    (place_bounds canonical.toIsAdmissible positive).1

/-- With fewer digits than those of the first grid there is no number that is read as the double. -/
theorem le_of_readsAs
    (before : ∀ d : Nat, 1 ≤ d → d < k → ∀ c : Nat, ¬ ReadsAs (c * 10 ^ (place m e - d)) m e)
    {y : ℚ} {n : Nat} (reads : ReadsAs y m e) (digits : HasDigits y n) : k ≤ n := by
  by_contra fewer
  obtain ⟨b, q, few, rfl⟩ := digits
  have some_digit : n ≠ 0 := by
    rintro rfl
    have zero : b = 0 := by omega
    have positive' := reads.pos canonical positive
    rw [zero, Nat.cast_zero, zero_mul] at positive'
    exact lt_irrefl 0 positive'
  rcases Int.lt_or_le q (place m e - n) with finer | coarser
  · have small := lt_of_few_digits few le_rfl finer
    have leading := readsAs_leading canonical positive reads small.le
    exact before 1 le_rfl (by omega) 1 (by simpa using leading)
  · obtain ⟨c, same⟩ := exists_on_finer_grid coarser b
    rw [same] at reads
    exact before n (by omega) (by omega) c reads

/-- The number that is found is at most the least one with one digit more. -/
theorem IsBestOnGrid.le (best : IsBestOnGrid goesUp m e (place m e - k) a) : a ≤ 10 ^ k := by
  by_contra more
  have next : ((10 ^ k : Nat) : ℚ) * 10 ^ (place m e - k) = 10 ^ place m e :=
    ten_pow_mul k (by omega)
  have above := (place_bounds canonical.toIsAdmissible positive).2
  rw [← next] at above
  have beyond := grid_lt_iff (p := place m e - k).mpr (not_le.mp more)
  have reads := (readsAs_size canonical positive).between canonical positive best.reads above.le
    beyond.le
  have distances := best.best (10 ^ k) reads (by omega)
  rw [abs_of_pos (by linarith), abs_of_pos (by linarith)] at distances
  rcases distances with nearer | ⟨same, _⟩ <;> linarith

end Search

theorem isShortest_shortest (goesUp : Nat → Bool) (canonical : IsCanonical m e)
    (positive : 0 < m) :
    IsShortest goesUp m e (shortest goesUp m e).1 (shortest goesUp m e).2 := by
  obtain ⟨k, a, some_digit, found, best, before⟩ := shortest_spec goesUp canonical positive
  rw [found]
  have digits : HasDigits ((a : ℚ) * 10 ^ (place m e - k)) k := by
    rcases (best.le canonical positive).lt_or_eq with less | rfl
    · exact ⟨a, _, less, rfl⟩
    · refine ⟨1, place m e, Nat.one_lt_pow (by omega) (by decide), ?_⟩
      rw [Nat.cast_one, one_mul]
      exact ten_pow_mul k (by omega)
  constructor
  case reads => exact best.reads
  case fewest =>
    intro y n reads few
    exact digits.mono (le_of_readsAs canonical positive before reads few)
  case best =>
    intro y reads few different
    obtain ⟨b, q, less, rfl⟩ := few k digits
    rcases Int.lt_or_le q (place m e - k) with finer | coarser
    · -- Then the number is so small that the leading digit alone is nearer.
      have small := lt_of_few_digits less le_rfl finer
      have least := (place_bounds canonical.toIsAdmissible positive).1
      have onGrid : ((10 ^ (k - 1) : Nat) : ℚ) * 10 ^ (place m e - k) = 10 ^ (place m e - 1) :=
        ten_pow_mul (k - 1) (by omega)
      have leading := readsAs_leading canonical positive reads small.le
      rw [← onGrid] at leading small least
      left
      calc |(a : ℚ) * 10 ^ (place m e - k) - size m e|
          ≤ |((10 ^ (k - 1) : Nat) : ℚ) * 10 ^ (place m e - k) - size m e| :=
            best.nearest _ leading
        _ = size m e - (10 ^ (k - 1) : Nat) * 10 ^ (place m e - k) := by
            rw [abs_sub_comm, abs_of_nonneg (sub_nonneg.mpr least)]
        _ < size m e - b * 10 ^ q := by linarith
        _ = |(b : ℚ) * 10 ^ q - size m e| := by
            rw [abs_sub_comm, abs_of_nonneg (by linarith)]
    · obtain ⟨c, same⟩ := exists_on_finer_grid coarser b
      rw [same] at reads different ⊢
      rcases best.best c reads (by rintro rfl; exact different rfl) with nearer | ⟨asNear, up⟩
      · exact .inl nearer
      · exact .inr ⟨asNear, c, rfl, up⟩

end ComponentGen.Number.Binary64

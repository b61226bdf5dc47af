import ComponentGen.Number.Numeral

/-!
# Numbers read from their texts

What is read as a whole number is a decimal numeral of it: at least one digit, however many zeros
stand in front, and perhaps a sign.  The decimal text of a whole number is one of them.
-/

namespace ComponentGen.Number

/-- The decimal text of a whole number is the one that Lean writes too. -/
theorem intText_eq_toString (n : Int) : intText n = toString n := by
  cases n with
  | ofNat k => rfl
  | negSucc k =>
      change String.ofList ('-' :: natDigits (k + 1)) = "-" ++ String.ofList (natDigits (k + 1))
      rw [String.ofList_cons]
      rfl

theorem isDigit_of_mem_natDigits {n : Nat} {c : Char} (member : c ∈ natDigits n) :
    c.isDigit = true :=
  Nat.isDigit_of_mem_toDigits (by decide) (by decide) member

theorem range_of_isDigit {c : Char} (digit : c.isDigit = true) : 48 ≤ c.toNat ∧ c.toNat ≤ 57 := by
  simp only [Char.isDigit, Bool.and_eq_true, decide_eq_true_eq] at digit
  exact digit

theorem digitValue_of_isDigit {c : Char} (digit : c.isDigit = true) :
    digitValue c = c.toNat - '0'.toNat ∧ digitValue c < 10 := by
  have value : digitValue c = c.toNat - '0'.toNat := by rw [digitValue, if_pos digit]
  refine ⟨value, ?_⟩
  have range := range_of_isDigit digit
  have zero : '0'.toNat = 48 := rfl
  omega

/-- Decimal digits are read from the left, as the value of a row of digits says. -/
theorem continueNat?_of_isDigit {cs : List Char} (digits : ∀ c ∈ cs, c.isDigit = true)
    (acc : Nat) : continueNat? 10 acc cs = some (Nat.ofDigitChars 10 cs acc) := by
  induction cs generalizing acc with
  | nil => rfl
  | cons c rest ih =>
      obtain ⟨value, small⟩ := digitValue_of_isDigit (digits c (List.mem_cons_self ..))
      rw [continueNat?, if_pos small, value, Nat.ofDigitChars_cons, Nat.mul_comm acc 10]
      exact ih (fun d member => digits d (List.mem_cons_of_mem c member)) _

theorem isDigit_of_digitValue {c : Char} (small : digitValue c < 10) : c.isDigit = true := by
  unfold digitValue at small
  split at small
  · assumption
  · split at small
    · omega
    · split at small
      · omega
      · omega

/-- Only decimal digits are read, and as the value of their row. -/
theorem continueNat?_eq_some_iff {cs : List Char} {acc n : Nat} :
    continueNat? 10 acc cs = some n ↔
      (∀ c ∈ cs, c.isDigit = true) ∧ n = Nat.ofDigitChars 10 cs acc := by
  constructor
  · intro read
    have digits : ∀ c ∈ cs, c.isDigit = true := by
      induction cs generalizing acc with
      | nil => simp
      | cons c rest ih =>
          rw [continueNat?] at read
          split at read
          case isTrue small =>
            exact List.forall_mem_cons.mpr ⟨isDigit_of_digitValue small, ih read⟩
          case isFalse => cases read
    rw [continueNat?_of_isDigit digits] at read
    exact ⟨digits, (Option.some.inj read).symm⟩
  · rintro ⟨digits, rfl⟩
    exact continueNat?_of_isDigit digits acc

theorem natOfDigits?_eq_some_iff {cs : List Char} {n : Nat} :
    natOfDigits? 10 cs = some n ↔
      cs ≠ [] ∧ (∀ c ∈ cs, c.isDigit = true) ∧ n = Nat.ofDigitChars 10 cs 0 := by
  rw [natOfDigits?, ← continueNat?_eq_some_iff]
  cases cs <;> simp

/-- A decimal numeral of a whole number: a row of digits with its value, perhaps behind a sign. -/
inductive IsDecimal : Int → List Char → Prop where
  | unsigned {digits : List Char} (present : digits ≠ [])
      (decimal : ∀ c ∈ digits, c.isDigit = true) :
      IsDecimal (Nat.ofDigitChars 10 digits 0) digits
  | plus {digits : List Char} (present : digits ≠ [])
      (decimal : ∀ c ∈ digits, c.isDigit = true) :
      IsDecimal (Nat.ofDigitChars 10 digits 0) ('+' :: digits)
  | minus {digits : List Char} (present : digits ≠ [])
      (decimal : ∀ c ∈ digits, c.isDigit = true) :
      IsDecimal (-(Nat.ofDigitChars 10 digits 0 : Int)) ('-' :: digits)

theorem natOfDigits?_natDigits (n : Nat) : natOfDigits? 10 (natDigits n) = some n := by
  have some_digit : (natDigits n).isEmpty = false := by
    rw [List.isEmpty_eq_false_iff]
    exact Nat.toDigits_ne_nil
  rw [natOfDigits?, some_digit, if_neg Bool.false_ne_true,
    continueNat?_of_isDigit (fun c member => isDigit_of_mem_natDigits member), natDigits,
    Nat.ofDigitChars_toDigits (by decide) (by decide)]

/-- A number that is not zero does not start with a zero. -/
theorem exists_natDigits_eq_cons {n : Nat} (positive : 0 < n) :
    ∃ c rest, natDigits n = c :: rest ∧ c ≠ '0' := by
  induction n using Nat.strongRecOn with
  | ind n ih =>
      by_cases small : n < 10
      · refine ⟨n.digitChar, [], Nat.toDigits_of_lt_base small, ?_⟩
        have digits : ∀ k < 10, 0 < k → k.digitChar ≠ '0' := by decide
        exact digits n small positive
      · obtain ⟨c, rest, starts, notZero⟩ := ih (n / 10) (by omega) (by omega)
        refine ⟨c, rest ++ [(n % 10).digitChar], ?_, notZero⟩
        rw [natDigits] at starts
        rw [natDigits, Nat.toDigits_of_base_le (by decide) (by omega), starts, List.cons_append]

/-- Digits without a sign are read as a natural number. -/
theorem intOfDigits?_of_isDigit {c : Char} (digit : c.isDigit = true) (rest : List Char) :
    intOfDigits? 10 (c :: rest) = (natOfDigits? 10 (c :: rest)).map Int.ofNat := by
  rw [intOfDigits?.eq_def]
  split
  case h_1 same =>
    cases same
    exact absurd digit (by decide)
  case h_2 same =>
    cases same
    exact absurd digit (by decide)
  case h_3 => rfl

/-- Exactly the decimal numerals of a number are read as it. -/
theorem intOfDigits?_eq_some_iff {cs : List Char} {n : Int} :
    intOfDigits? 10 cs = some n ↔ IsDecimal n cs := by
  constructor
  · intro read
    rw [intOfDigits?.eq_def] at read
    split at read
    case h_1 =>
      rcases Option.map_eq_some_iff.mp read with ⟨k, digits, rfl⟩
      rcases natOfDigits?_eq_some_iff.mp digits with ⟨present, decimal, rfl⟩
      exact .minus present decimal
    case h_2 =>
      rcases Option.map_eq_some_iff.mp read with ⟨k, digits, rfl⟩
      rcases natOfDigits?_eq_some_iff.mp digits with ⟨present, decimal, rfl⟩
      exact .plus present decimal
    case h_3 =>
      rcases Option.map_eq_some_iff.mp read with ⟨k, digits, rfl⟩
      rcases natOfDigits?_eq_some_iff.mp digits with ⟨present, decimal, rfl⟩
      exact .unsigned present decimal
  · intro numeral
    cases numeral with
    | unsigned present decimal =>
        cases cs with
        | nil => exact absurd rfl present
        | cons c rest =>
            rw [intOfDigits?_of_isDigit (decimal c (List.mem_cons_self ..)),
              natOfDigits?_eq_some_iff.mpr ⟨present, decimal, rfl⟩]
            rfl
    | plus present decimal =>
        rw [intOfDigits?, natOfDigits?_eq_some_iff.mpr ⟨present, decimal, rfl⟩]
        rfl
    | minus present decimal =>
        rw [intOfDigits?, natOfDigits?_eq_some_iff.mpr ⟨present, decimal, rfl⟩]
        rfl

theorem intOfDigits?_intText (n : Int) : intOfDigits? 10 (intText n).toList = some n := by
  cases n with
  | ofNat k =>
      have value := natOfDigits?_natDigits k
      have digits : ∀ c ∈ natDigits k, c.isDigit = true := fun c => isDigit_of_mem_natDigits
      rw [intText, String.toList_ofList]
      cases split : natDigits k with
      | nil => exact absurd split Nat.toDigits_ne_nil
      | cons c rest =>
          rw [split] at value digits
          rw [intOfDigits?_of_isDigit (digits c (List.mem_cons_self ..)), value]
          rfl
  | negSucc k =>
      rw [intText, String.toList_ofList, intOfDigits?, natOfDigits?_natDigits]
      rfl

end ComponentGen.Number

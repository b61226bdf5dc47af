/-!
# Double-precision numbers

Binary floating-point numbers of 64 bits as exact values: a sign, a mantissa and a power of
two.  Rounding is to the nearest representable number, ties to the even mantissa, and is
carried out on quotients of natural numbers, so nothing depends on machine arithmetic.
-/

namespace ComponentGen.Number

/-- A double-precision number.  A finite one stands for `mantissa · 2 ^ exponent` with the
given sign; its mantissa has at most 53 bits, and exactly 53 unless the exponent is smallest. -/
inductive Binary64 where
  | finite (negative : Bool) (mantissa : Nat) (exponent : Int)
  | infinite (negative : Bool)
  | notANumber
  deriving Repr, DecidableEq

namespace Binary64

/-- The exponent of the numbers next to zero. -/
def smallestExponent : Int := -1074

/-- The exponent of the largest finite numbers. -/
def largestExponent : Int := 971

/-- Zero with a sign. -/
def zero (negative : Bool) : Binary64 := .finite negative 0 smallestExponent

/-- Whether the number is finite. -/
def isFinite : Binary64 → Bool
  | .finite .. => true
  | _ => false

/-- `num / den` divided by `2 ^ e`, as a numerator and a denominator. -/
def scaledBy (num den : Nat) (e : Int) : Nat × Nat :=
  if 0 ≤ e then (num, den * Nat.pow 2 e.toNat) else (num * Nat.pow 2 (-e).toNat, den)

/-- The whole number nearest to `num / den`; a tie goes to the even neighbour. -/
def nearestEven (num den : Nat) : Nat :=
  let floor := num / den
  let rest := num % den
  if 2 * rest < den then floor
  else if den < 2 * rest then floor + 1
  else if floor % 2 = 0 then floor else floor + 1

/-- The exponent at which a positive quotient has a 53-bit mantissa, or the smallest one. -/
def exponentFor (num den : Nat) : Int :=
  let guess := Int.ofNat num.log2 - Int.ofNat den.log2 - 53
  let scaled := scaledBy num den guess
  max smallestExponent (if scaled.1 / scaled.2 < Nat.pow 2 53 then guess else guess + 1)

/-- The double nearest to `num / den` with the given sign. -/
def ofRatio (negative : Bool) (num den : Nat) : Binary64 :=
  if num = 0 then zero negative
  else
    let e := exponentFor num den
    let scaled := scaledBy num den e
    let mantissa := nearestEven scaled.1 scaled.2
    let carried : Nat × Int :=
      if mantissa = Nat.pow 2 53 then (Nat.pow 2 52, e + 1) else (mantissa, e)
    if largestExponent < carried.2 then .infinite negative
    else .finite negative carried.1 carried.2

/-- The double nearest to a whole number. -/
def ofInt (n : Int) : Binary64 := ofRatio (n < 0) n.natAbs 1

/-- The double nearest to `digits · 10 ^ exponent`.  Values whose leading digit lies beyond
400 places from the point are settled without computing the power. -/
def ofDecimal (negative : Bool) (digits : Nat) (exponent : Int) : Binary64 :=
  let leading := Int.ofNat (Nat.toDigits 10 digits).length + exponent
  if digits = 0 || leading < -400 then zero negative
  else if 400 < leading then .infinite negative
  else if 0 ≤ exponent then ofRatio negative (digits * Nat.pow 10 exponent.toNat) 1
  else ofRatio negative digits (Nat.pow 10 (-exponent).toNat)

/-- `mantissa · 2 ^ exponent` as a numerator and a denominator. -/
def magnitude (mantissa : Nat) (exponent : Int) : Nat × Nat :=
  if 0 ≤ exponent then (mantissa * Nat.pow 2 exponent.toNat, 1)
  else (mantissa, Nat.pow 2 (-exponent).toNat)

/-- The product of a number with the double nearest to `10 ^ k`. -/
def timesPowerOfTen (x : Binary64) (k : Nat) : Binary64 :=
  match x, ofRatio false (Nat.pow 10 k) 1 with
  | .finite negative m e, .finite _ m₁₀ e₁₀ =>
      let ratio := magnitude (m * m₁₀) (e + e₁₀)
      ofRatio negative ratio.1 ratio.2
  | _, _ => x

/-- The quotient of a number by the double nearest to `10 ^ k`. -/
def overPowerOfTen (x : Binary64) (k : Nat) : Binary64 :=
  match x, ofRatio false (Nat.pow 10 k) 1 with
  | .finite negative m e, .finite _ m₁₀ e₁₀ =>
      let top := magnitude m e
      let bottom := magnitude m₁₀ e₁₀
      ofRatio negative (top.1 * bottom.2) (top.2 * bottom.1)
  | _, _ => x

end Binary64

end ComponentGen.Number

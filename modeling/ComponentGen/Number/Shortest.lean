import ComponentGen.Number.Binary64
import ComponentGen.Number.Numeral

/-!
# Shortest decimal texts of a double

The digits written for a double are the fewest that read back as the same number, and of
those the nearest.  There are two texts with them.  The text for people is positional at every
size, without an exponent and without a fraction part when the number is whole; an exact tie goes
up.  The text in data always has a fraction part or an exponent, so that it is no whole number, and
it has an exponent if the number is very large or very small; an exact tie goes to the even digit.
-/

namespace ComponentGen.Number.Binary64

/-- `a · 10 ^ p ≤ b · 2 ^ q`, compared on whole numbers. -/
def decimalLe (a : Nat) (p : Int) (b : Nat) (q : Int) : Bool :=
  a * Nat.pow 10 p.toNat * Nat.pow 2 (-q).toNat ≤ b * Nat.pow 2 q.toNat * Nat.pow 10 (-p).toNat

/-- `b · 2 ^ q ≤ a · 10 ^ p`, compared on whole numbers. -/
def binaryLe (b : Nat) (q : Int) (a : Nat) (p : Int) : Bool :=
  b * Nat.pow 2 q.toNat * Nat.pow 10 (-p).toNat ≤ a * Nat.pow 10 p.toNat * Nat.pow 2 (-q).toNat

/-- Whether `a · 10 ^ p` rounds to the double `m · 2 ^ e`.  In quarters of a unit in the last
place the double owns the numbers from two below to two above it, or from one below when its
mantissa is the least of 53 bits; the ends count when the mantissa is even. -/
def readsBack (m : Nat) (e : Int) (a : Nat) (p : Int) : Bool :=
  let below := if m = Nat.pow 2 52 ∧ smallestExponent < e then 4 * m - 1 else 4 * m - 2
  let above := 4 * m + 2
  if m % 2 = 0 then binaryLe below (e - 2) a p && decimalLe a p above (e - 2)
  else !decimalLe a p below (e - 2) && !binaryLe above (e - 2) a p

/-- Counts the places by which a fraction has to be moved to reach one. -/
def placesBelowOne (num den : Nat) : Nat → Nat
  | 0 => 0
  | fuel + 1 => if den ≤ num then 0 else placesBelowOne (num * 10) den fuel + 1

/-- The decimal exponent `k` with `10 ^ (k - 1) ≤ num / den < 10 ^ k`. -/
def leadingPlace (num den : Nat) : Int :=
  if den ≤ num then Int.ofNat (natDigits (num / den)).length
  else 1 - Int.ofNat (placesBelowOne num den 400)

/-- The better of the two neighbours of `m · 2 ^ e` on the grid of multiples of `10 ^ p`, if
one of them reads back.  If both are as good, `goesUp` says of the lower one whether the upper one
is taken. -/
def onGrid? (goesUp : Nat → Bool) (m : Nat) (e p : Int) : Option Nat :=
  let top := m * Nat.pow 2 e.toNat * Nat.pow 10 (-p).toNat
  let bottom := Nat.pow 2 (-e).toNat * Nat.pow 10 p.toNat
  let low := top / bottom
  let lowReads := readsBack m e low p
  let highReads := readsBack m e (low + 1) p
  let rest := 2 * (top % bottom)
  if lowReads && highReads then
    some (if rest < bottom || (rest == bottom && !goesUp low) then low else low + 1)
  else if lowReads then some low
  else if highReads then some (low + 1)
  else none

/-- The coarsest decimal grid, from `places` digits on, that holds a number reading back. -/
def shortestFrom (goesUp : Nat → Bool) (m : Nat) (e place : Int) (digits : Nat) :
    Nat → Nat × Int
  | 0 => (m, 0)
  | fuel + 1 =>
      match onGrid? goesUp m e (place - digits) with
      | some a => (a, place - digits)
      | none => shortestFrom goesUp m e place (digits + 1) fuel

/-- Digits and exponent of the shortest decimal for a positive double. -/
def shortest (goesUp : Nat → Bool) (m : Nat) (e : Int) : Nat × Int :=
  let ratio := magnitude m e
  shortestFrom goesUp m e (leadingPlace ratio.1 ratio.2) 1 20

/-- Positional text of `digits · 10 ^ p`, without zeros behind the last digit of a fraction. -/
def positional (digits : Nat) (p : Int) : List Char :=
  if 0 ≤ p then
    if digits = 0 then ['0'] else natDigits digits ++ List.replicate p.toNat '0'
  else
    let places := (-p).toNat
    let written := natDigits digits
    let padded := List.replicate (places + 1 - written.length) '0' ++ written
    let whole := padded.take (padded.length - places)
    let fraction := ((padded.drop (padded.length - places)).reverse.dropWhile (· == '0')).reverse
    if fraction.isEmpty then whole else whole ++ '.' :: fraction

/-- The text of a double for people. -/
def text : Binary64 → String
  | .notANumber => "NaN"
  | .infinite negative => if negative then "-inf" else "inf"
  | .finite negative m e =>
      let digits := if m = 0 then (0, 0) else shortest (fun _ => true) m e
      String.ofList ((if negative then ['-'] else []) ++ positional digits.1 digits.2)

/-- Digits and exponent of the same decimal without zeros at the end of the digits. -/
def withoutZeros (digits : Nat) (p : Int) : Nat → Nat × Int
  | 0 => (digits, p)
  | fuel + 1 => if digits % 10 = 0 then withoutZeros (digits / 10) (p + 1) fuel else (digits, p)

/-- Text of `digits · 10 ^ p` with a fraction part or an exponent.  It has an exponent if there
are more than 16 digits in front of the point or more than four zeros behind it. -/
def floating (digits : Nat) (p : Int) : List Char :=
  let count : Int := (natDigits digits).length
  if count + p ≤ -5 || 16 < count + p then
    positional digits (1 - count) ++ 'e' :: (intText (count + p - 1)).toList
  else if 0 ≤ p then positional digits p ++ ['.', '0']
  else positional digits p

/-- The text of a finite double in data. -/
def dataText (negative : Bool) (m : Nat) (e : Int) : List Char :=
  let found := shortest (fun low => low % 2 == 1) m e
  let digits := if m = 0 then (0, 0) else withoutZeros found.1 found.2 (natDigits found.1).length
  (if negative then ['-'] else []) ++ floating digits.1 digits.2

end ComponentGen.Number.Binary64

/-!
# Numerals

Digits in a given base and signed whole numbers, read from characters.  A sign must be
followed by at least one digit, and nothing may follow the digits.
-/

namespace ComponentGen.Number

/-- The value of a digit in bases up to sixteen. -/
def digitValue (c : Char) : Nat :=
  if c.isDigit then c.toNat - '0'.toNat
  else if 'a' ≤ c ∧ c ≤ 'f' then c.toNat - 'a'.toNat + 10
  else if 'A' ≤ c ∧ c ≤ 'F' then c.toNat - 'A'.toNat + 10
  else 16

/-- The number that a row of digits continues, when `acc` stands in front of it. -/
def continueNat? (base acc : Nat) : List Char → Option Nat
  | [] => some acc
  | c :: rest =>
      if digitValue c < base then continueNat? base (acc * base + digitValue c) rest else none

/-- A non-empty row of digits in the given base. -/
def natOfDigits? (base : Nat) (cs : List Char) : Option Nat :=
  if cs.isEmpty then none else continueNat? base 0 cs

/-- A whole number in the given base, with an optional sign. -/
def intOfDigits? (base : Nat) : List Char → Option Int
  | '-' :: rest => (natOfDigits? base rest).map fun n => -Int.ofNat n
  | '+' :: rest => (natOfDigits? base rest).map Int.ofNat
  | cs => (natOfDigits? base cs).map Int.ofNat

/-- The whole numbers of 32 bits. -/
def fitsInt32 (n : Int) : Bool := -2147483648 ≤ n && n ≤ 2147483647

/-- The whole numbers of 64 bits. -/
def fitsInt64 (n : Int) : Bool := -9223372036854775808 ≤ n && n ≤ 9223372036854775807

/-- The whole numbers that 64 bits hold with or without a sign. -/
def fitsWord64 (n : Int) : Bool := -9223372036854775808 ≤ n && n ≤ 18446744073709551615

/-- A decimal number of 32 bits, with an optional sign. -/
def int32OfText? (s : String) : Option Int :=
  (intOfDigits? 10 s.toList).filter fitsInt32

/-- The decimal digits of a number. -/
def natDigits (n : Nat) : List Char := Nat.toDigits 10 n

/-- The decimal text of a whole number. -/
def intText : Int → String
  | .ofNat n => String.ofList (natDigits n)
  | .negSucc n => String.ofList ('-' :: natDigits (n + 1))

end ComponentGen.Number

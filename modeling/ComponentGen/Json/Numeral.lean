import ComponentGen.Data.Node

/-!
# JSON numbers

A number without fraction and exponent is a whole number when 64 bits hold it.  Every other
number is a double: its digits are collected into a word of 64 bits, rounded to a double and
then multiplied or divided by the double nearest to a power of ten.  Digits that no longer fit
the word are dropped, those in front of the point with their weight.
-/

namespace ComponentGen.Json

open Number

/-- The largest word of 64 bits. -/
def largestWord : Nat := 18446744073709551615

/-- The largest power of ten that doubles hold. -/
def largestPower : Nat := 308

/-- Collects digits into a word for as long as it holds them; also gives the digits left. -/
def collect (word : Nat) : List Char → Nat × List Char
  | [] => (word, [])
  | c :: rest =>
      let next := word * 10 + digitValue c
      if largestWord < next then (word, c :: rest) else collect next rest

/-- Scales a double by a power of ten; there is no result when it grows beyond the doubles. -/
def scale : Nat → Binary64 → Int → Option Binary64
  | 0, _, _ => none
  | fuel + 1, x, exponent =>
      if exponent.natAbs ≤ largestPower then
        let scaled :=
          if 0 ≤ exponent then x.timesPowerOfTen exponent.toNat
          else x.overPowerOfTen (-exponent).toNat
        if scaled.isFinite then some scaled else none
      else match x with
        | .finite negative 0 e => some (.finite negative 0 e)
        | _ =>
          if 0 ≤ exponent then none
          else scale fuel (x.overPowerOfTen largestPower) (exponent + largestPower)

/-- The double of a word and a decimal exponent.  Four steps are enough, because two divisions
by the largest power bring any word to zero. -/
def doubleOf (negative : Bool) (word : Nat) (exponent : Int) : Scalar :=
  match scale 4 (Binary64.ofRatio negative word 1) exponent with
  | some x => .float x
  | none => .unreadable

/-- A whole number of 64 bits, or else a double; `-0` is a double, to keep its sign. -/
def wholeOf (negative : Bool) (word : Nat) : Scalar :=
  if !negative then .int (Int.ofNat word)
  else if 0 < word ∧ word ≤ Nat.pow 2 63 then .int (-Int.ofNat word)
  else .float (Binary64.ofRatio true word 1)

/-- A decimal exponent behind `e`, with what follows it. -/
def readExponent? (cs : List Char) : Option (Int × List Char) :=
  let signed : Bool × List Char := match cs with
    | '+' :: rest => (false, rest)
    | '-' :: rest => (true, rest)
    | _ => (false, cs)
  let digits := signed.2.span Char.isDigit
  (natOfDigits? 10 digits.1).map fun n =>
    (if signed.1 then -Int.ofNat n else Int.ofNat n, digits.2)

/-- The digits of the whole part: a single zero, or digits without a zero in front. -/
def readWhole? : List Char → Option (List Char × List Char)
  | '0' :: rest => if (rest.head?.any Char.isDigit) then none else some (['0'], rest)
  | cs =>
      let digits := cs.span Char.isDigit
      if digits.1.isEmpty then none else some digits

/-- A number behind its sign, with what follows it. -/
def readUnsigned? (negative : Bool) (cs : List Char) : Option (Scalar × List Char) := do
  let (whole, rest) ← readWhole? cs
  let (word, dropped) := collect 0 whole
  match rest with
  | '.' :: more =>
      let fraction := more.span Char.isDigit
      if fraction.1.isEmpty then none
      else
        let (word, ignored) := collect word fraction.1
        let exponent : Int := dropped.length - (fraction.1.length - ignored.length : Nat)
        match fraction.2 with
        | e :: tail =>
            if e = 'e' ∨ e = 'E' then do
              let (n, rest) ← readExponent? tail
              return (doubleOf negative word (exponent + n), rest)
            else return (doubleOf negative word exponent, e :: tail)
        | [] => return (doubleOf negative word exponent, [])
  | e :: tail =>
      if e = 'e' ∨ e = 'E' then do
        let (n, rest) ← readExponent? tail
        return (doubleOf negative word (dropped.length + n), rest)
      else if dropped.isEmpty then return (wholeOf negative word, e :: tail)
      else return (doubleOf negative word dropped.length, e :: tail)
  | [] =>
      if dropped.isEmpty then return (wholeOf negative word, [])
      else return (doubleOf negative word dropped.length, [])

/-- A number, with what follows it. -/
def readNumber? : List Char → Option (Scalar × List Char)
  | '-' :: rest => readUnsigned? true rest
  | cs => readUnsigned? false cs

end ComponentGen.Json

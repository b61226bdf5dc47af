import ComponentGen.Data.Json
import ComponentGen.Number.Numeral

/-!
# Plain YAML scalars

What a scalar without quotes stands for: null, a boolean, a whole number, a floating-point
number, or else its own text.  The spellings are those of the core schema, so `yes` and `on`
are texts, and a number may be hexadecimal, octal or binary.
-/

namespace ComponentGen.Yaml

open Number

/-- The spellings of null. -/
def isNullWord (s : String) : Bool := ["null", "Null", "NULL", "~"].contains s

/-- The spellings of a boolean. -/
def boolOfWord? (s : String) : Option Bool :=
  if ["true", "True", "TRUE"].contains s then some true
  else if ["false", "False", "FALSE"].contains s then some false
  else none

/-- Decimal digits with a superfluous zero in front, which make a text and not a number. -/
def hasLeadingZero (cs : List Char) : Bool :=
  let unsigned := match cs with
    | '-' :: rest => rest
    | '+' :: rest => rest
    | _ => cs
  match unsigned with
  | '0' :: d :: rest => (d :: rest).all Char.isDigit
  | _ => false

/-- Digits behind a base mark. -/
def basedNat? : List Char → Option Nat
  | '0' :: 'x' :: rest => natOfDigits? 16 rest
  | '0' :: 'o' :: rest => natOfDigits? 8 rest
  | '0' :: 'b' :: rest => natOfDigits? 2 rest
  | _ => none

/-- A whole number of any size: decimal without superfluous zeros, or with a base mark. -/
def wholeNumber? (cs : List Char) : Option Int :=
  let based := match cs with
    | '+' :: rest => (basedNat? rest).map Int.ofNat
    | '-' :: rest => (basedNat? rest).map fun n => -Int.ofNat n
    | _ => (basedNat? cs).map Int.ofNat
  match based with
  | some n => some n
  | none => if hasLeadingZero cs then none else intOfDigits? 10 cs

/-- Splits decimal digits from the front of a list. -/
def takeDigits (cs : List Char) : List Char × List Char := cs.span Char.isDigit

/-- Digits, an optional fraction and an optional exponent, with a digit before the exponent. -/
def decimal? (negative : Bool) (cs : List Char) : Option Binary64 :=
  let (whole, rest) := takeDigits cs
  let (fraction, rest) := match rest with
    | '.' :: more => takeDigits more
    | _ => ([], rest)
  if whole.isEmpty && fraction.isEmpty then none
  else do
    let exponent ← match rest with
      | [] => some 0
      | 'e' :: more => intOfDigits? 10 more
      | 'E' :: more => intOfDigits? 10 more
      | _ => none
    let digits ← natOfDigits? 10 (whole ++ fraction)
    return Binary64.ofDecimal negative digits (exponent - fraction.length)

/-- A floating-point number: decimal and finite, or one of the spellings of infinity and of
"not a number". -/
def floatingNumber? (s : String) : Option Binary64 :=
  if [".inf", ".Inf", ".INF", "+.inf", "+.Inf", "+.INF"].contains s then some (.infinite false)
  else if ["-.inf", "-.Inf", "-.INF"].contains s then some (.infinite true)
  else if [".nan", ".NaN", ".NAN"].contains s then some .notANumber
  else
    let number := match s.toList with
      | '+' :: rest => decimal? false rest
      | '-' :: rest => decimal? true rest
      | cs => decimal? false cs
    number.filter Binary64.isFinite

/-- Whole numbers that 128 bits hold, with or without a sign. -/
def fitsWord128 (n : Int) : Bool := -(Nat.pow 2 127 : Int) ≤ n && n < (Nat.pow 2 128 : Int)

/-- The value of a plain scalar.  A whole number that 128 bits hold and 64 bits do not has no
value of its own; a longer one is read as a floating-point number. -/
def resolve (s : String) : Option Json :=
  if s.isEmpty || isNullWord s then some .null
  else match boolOfWord? s with
    | some b => some (.bool b)
    | none =>
      let cs := s.toList
      let floatOrText := match (if hasLeadingZero cs then none else floatingNumber? s) with
        | some x => some (.float x)
        | none => some (.text s)
      match wholeNumber? cs with
      | some n =>
          if fitsWord64 n then some (.int n)
          else if fitsWord128 n then none
          else floatOrText
      | none => floatOrText

/-- Whether a text, written plainly, would be read as that text. -/
def isPlainText (s : String) : Bool :=
  !hasLeadingZero s.toList && match resolve s with
    | some (.text _) => true
    | _ => false

end ComponentGen.Yaml

import ComponentGen.Json.Numeral
import ComponentGen.Text.Trim

/-!
# Reading JSON

JSON text becomes a document node.  What is well formed but has no value (a number beyond the
doubles, a text with half of a surrogate pair) becomes an unreadable scalar, so that a document
may hold it where nobody looks.  An object with such a key is unreadable as a whole.
-/

namespace ComponentGen.Json

open Number

/-- The blanks between the tokens of JSON. -/
def isSpace (c : Char) : Bool := c == ' ' || c == '\n' || c == '\t' || c == '\r'

/-- A text without the blanks in front of its first token. -/
def skipSpace (cs : List Char) : List Char := cs.dropWhile isSpace

/-- The character of a one-letter escape. -/
def escaped? : Char → Option Char
  | '"' => some '"'
  | '\\' => some '\\'
  | '/' => some '/'
  | 'b' => some '\x08'
  | 'f' => some '\x0c'
  | 'n' => some '\n'
  | 'r' => some '\r'
  | 't' => some '\t'
  | _ => none

/-- The number that four hexadecimal digits give. -/
def hex4? (a b c d : Char) : Option Nat := natOfDigits? 16 [a, b, c, d]

/-- The first halves of surrogate pairs. -/
def isHighSurrogate (code : Nat) : Bool := 0xD800 ≤ code && code ≤ 0xDBFF

/-- The second halves of surrogate pairs. -/
def isLowSurrogate (code : Nat) : Bool := 0xDC00 ≤ code && code ≤ 0xDFFF

/-- The character of a surrogate pair. -/
def ofSurrogates (high low : Nat) : Char :=
  Char.ofNat (0x10000 + (high - 0xD800) * 0x400 + (low - 0xDC00))

/-- Puts a character in front of the content of a text, if the text has one. -/
def consContent (c : Char) (tail : Option (List Char) × List Char) :
    Option (List Char) × List Char :=
  (tail.1.map (c :: ·), tail.2)

/-- Drops the content of a text if the first half of a surrogate pair stands in front of it. -/
def unlessHalf (half : Option Nat) (tail : Option (List Char) × List Char) :
    Option (List Char) × List Char :=
  (if half.isSome then none else tail.1, tail.2)

/-- The content of a text behind its opening quote, with what follows the closing quote.  `half`
is the first half of a surrogate pair when one was just read.  The content is missing when half
of a pair stands alone. -/
def readContent (half : Option Nat) : List Char → Option (Option (List Char) × List Char)
  | [] => none
  | '"' :: rest => some (unlessHalf half (some [], rest))
  | '\\' :: 'u' :: a :: b :: c :: d :: rest =>
      match hex4? a b c d with
      | none => none
      | some code =>
          match half with
          | some high =>
              (readContent none rest).map fun tail =>
                if isLowSurrogate code then consContent (ofSurrogates high code) tail
                else (none, tail.2)
          | none =>
              if isHighSurrogate code then readContent (some code) rest
              else if isLowSurrogate code then
                (readContent none rest).map fun tail => (none, tail.2)
              else (readContent none rest).map (consContent (Char.ofNat code))
  | '\\' :: c :: rest =>
      match escaped? c with
      | some e => (readContent none rest).map fun tail => unlessHalf half (consContent e tail)
      | none => none
  | c :: rest =>
      if c.toNat < 0x20 then none
      else (readContent none rest).map fun tail => unlessHalf half (consContent c tail)

/-- The scalar of a text's content. -/
def textScalar : Option (List Char) → Scalar
  | some cs => .text (String.ofList cs)
  | none => .unreadable

/-- The entries of an object, unless one of its keys has no content. -/
def entriesNode (entries : List (Option (List Char) × Node)) : Node :=
  match entries.mapM fun entry => entry.1.map fun key => (key, entry.2) with
  | some known =>
      .map .json (known.map fun entry => (.scalar (.text (String.ofList entry.1)), entry.2))
  | none => .scalar .unreadable

mutual

/-- A value behind the blanks in front of it, with what follows. -/
def readValue : Nat → List Char → Option (Node × List Char)
  | 0, _ => none
  | fuel + 1, cs =>
      match cs with
      | '"' :: rest => (readContent none rest).map fun s => (.scalar (textScalar s.1), s.2)
      | '[' :: rest =>
          match skipSpace rest with
          | ']' :: rest => some (.list .json [], rest)
          | first => (readItems fuel first).map fun r => (.list .json r.1, r.2)
      | '\x7b' :: rest =>
          match skipSpace rest with
          | '\x7d' :: rest => some (.map .json [], rest)
          | first => (readFields fuel first).map fun r => (entriesNode r.1, r.2)
      | 't' :: rest => (Text.after? ['r', 'u', 'e'] rest).map (.scalar (.bool true), ·)
      | 'f' :: rest => (Text.after? ['a', 'l', 's', 'e'] rest).map (.scalar (.bool false), ·)
      | 'n' :: rest => (Text.after? ['u', 'l', 'l'] rest).map (.scalar .null, ·)
      | _ => (readNumber? cs).map fun n => (.scalar n.1, n.2)

/-- The items of an array from the first one on, with what follows the closing bracket. -/
def readItems : Nat → List Char → Option (List Node × List Char)
  | 0, _ => none
  | fuel + 1, cs =>
      match readValue fuel cs with
      | none => none
      | some (item, rest) =>
          match skipSpace rest with
          | ',' :: rest =>
              (readItems fuel (skipSpace rest)).map fun r => (item :: r.1, r.2)
          | ']' :: rest => some ([item], rest)
          | _ => none

/-- The fields of an object from the first one on, with what follows the closing brace. -/
def readFields : Nat → List Char → Option (List (Option (List Char) × Node) × List Char)
  | 0, _ => none
  | fuel + 1, cs =>
      match cs with
      | '"' :: rest =>
          match readContent none rest with
          | none => none
          | some (key, rest) =>
              match skipSpace rest with
              | ':' :: rest =>
                  match readValue fuel (skipSpace rest) with
                  | none => none
                  | some (value, rest) =>
                      match skipSpace rest with
                      | ',' :: rest =>
                          (readFields fuel (skipSpace rest)).map fun r =>
                            ((key, value) :: r.1, r.2)
                      | '\x7d' :: rest => some ([(key, value)], rest)
                      | _ => none
              | _ => none
      | _ => none

end

/-- Reads a JSON text that holds one value and nothing else.  Every call of the reader takes a
character or is made by one that did, so twice the length of the text bounds their number. -/
def read? (s : String) : Option Node :=
  let cs := s.toList
  match readValue (2 * cs.length + 2) (skipSpace cs) with
  | some (node, rest) => if (skipSpace rest).isEmpty then some node else none
  | none => none

end ComponentGen.Json

import ComponentGen.Number.Numeral
import ComponentGen.Xml.Character

/-!
# References and line ends

Character data is read in two steps.  First its references are resolved, which keeps track of
the characters that were written by reference.  Then line ends become line feeds, and in
attribute values blanks of any kind become blanks; characters that were written by reference
stay as they are.
-/

namespace ComponentGen.Xml

open Number

/-- A character of character data, as it is written or by reference. -/
inductive Piece where
  | literal (c : Char)
  | referred (c : Char)
  deriving Repr, DecidableEq

/-- The largest number that a character reference may hold. -/
def largestReference : Nat := 4294967295

/-- The character with a given number, or the replacement character if there is none. -/
def charOfNumber (n : Nat) : Char := if n.isValidChar then Char.ofNat n else '\uFFFD'

/-- The character of a reference, from the text between its `&` and its `;`. -/
def referred? (word : List Char) : Option Char :=
  let numbered (base : Nat) (digits : List Char) : Option Char :=
    ((natOfDigits? base digits).filter (· ≤ largestReference)).bind fun n =>
      some (charOfNumber n) |>.filter isAllowed
  match word with
  | '#' :: 'x' :: digits => numbered 16 digits
  | '#' :: digits => numbered 10 digits
  | ['l', 't'] => some '<'
  | ['g', 't'] => some '>'
  | ['a', 'm', 'p'] => some '&'
  | ['q', 'u', 'o', 't'] => some '"'
  | ['a', 'p', 'o', 's'] => some '\''
  | _ => none

/-- Resolves the references of character data.  `word` is what was read of a reference that is
not closed yet, last character first. -/
def pieces? (word : Option (List Char)) : List Char → Option (List Piece)
  | [] => if word.isNone then some [] else none
  | c :: rest =>
      match word with
      | none =>
          if c == '&' then pieces? (some []) rest
          else (pieces? none rest).map (.literal c :: ·)
      | some w =>
          if c == ';' then
            match referred? w.reverse with
            | some r => (pieces? none rest).map (.referred r :: ·)
            | none => none
          else pieces? (some (c :: w)) rest

/-- The value of an attribute. -/
def attributeContent : List Piece → List Char
  | [] => []
  | .literal '\r' :: .literal '\n' :: rest => attributeContent (.literal '\n' :: rest)
  | .literal c :: rest => (if isSpace c then ' ' else c) :: attributeContent rest
  | .referred c :: rest => c :: attributeContent rest

/-- The text of character data.  A carriage return, with or without a line feed behind it, is
held back until the next character has decided about it: it becomes a line feed, but stays a
carriage return in front of a reference and in front of the character that follows one.  The
character that follows a reference is taken as it is (`asIs`). -/
def textFrom (held asIs : Bool) : List Piece → List Char
  | [] => if held then ['\r'] else []
  | .referred c :: rest =>
      (if held then ['\r'] else []) ++
        if c = '\r' then textFrom true true rest else c :: textFrom false true rest
  | .literal c :: rest =>
      if asIs then
        (if held then ['\r'] else []) ++
          if c = '\r' then textFrom true false rest else c :: textFrom false false rest
      else
        (if held then ['\n'] else []) ++
          if c = '\r' then
            if rest.isEmpty then ['\n'] else textFrom true false rest
          else if held && c == '\n' then textFrom false false rest
          else c :: textFrom false false rest

/-- The text of character data. -/
def textContent (pieces : List Piece) : List Char := textFrom false false pieces

end ComponentGen.Xml

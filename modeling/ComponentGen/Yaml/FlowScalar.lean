import ComponentGen.Yaml.Cursor
import ComponentGen.Number.Numeral

/-!
# Plain and quoted YAML scalars

Scalars that may run over several lines.  A line end between two words is folded: one line end
becomes a blank, and of several all but the first are kept.  Blanks around a line end vanish.
The white space between two words is held back until the next word shows that it counts.
-/

namespace ComponentGen.Yaml

open Number

/-- White space that is held back: blanks of one line, or line ends once `broken` is set. -/
structure Held where
  blanks : List Char := []
  broken : Bool := false
  firstBreak : List Char := []
  moreBreaks : List Char := []
  deriving Repr, DecidableEq

namespace Held

/-- Takes one more blank; behind a line end it is indentation. -/
def addBlank (h : Held) (c : Char) : Held :=
  if h.broken then h else { h with blanks := h.blanks ++ [c] }

/-- Takes one more line end. -/
def addBreak (h : Held) (c : Char) : Held :=
  if h.broken then { h with moreBreaks := h.moreBreaks ++ [c] }
  else { broken := true, firstBreak := [c] }

/-- A line end behind a backslash, which joins the lines without a blank. -/
def escapedBreak : Held := { broken := true }

/-- What the white space contributes to the text. -/
def folded (h : Held) : List Char :=
  if !h.broken then h.blanks
  else if h.firstBreak = ['\n'] then
    if h.moreBreaks.isEmpty then [' '] else h.moreBreaks
  else h.firstBreak ++ h.moreBreaks

end Held

/-- The indicators of collections in brackets. -/
def isBracketIndicator (c : Char) : Bool :=
  c == ',' || c == '[' || c == ']' || c == '\x7b' || c == '\x7d'

/-- Whether a plain scalar ends in front of the given text, whose first character is no blank.
Outside brackets it also ends on a line that is not indented to column `floor`. -/
def endsPlain (flow : Bool) (floor : Nat) (held : Held) (p : Position) : List Char → Bool
  | [] => true
  | c :: rest =>
      (p.column == 0 && startsMark (c :: rest)) ||
      (held.broken && !flow && p.column < floor) ||
      (c == '#' && held != {}) ||
      (c == ':' && startsBlank rest) ||
      (flow && isBracketIndicator c)

/-- Whether a colon inside brackets stands in front of an indicator, which is an error. -/
def isStrayColon (flow : Bool) : List Char → Bool
  | ':' :: c :: _ => flow && (isBracketIndicator c || c == '?')
  | _ => false

/-- The content of a plain scalar, whether a line end was passed behind it, and what follows. -/
def readPlain (flow : Bool) (floor : Nat) (held : Held) (p : Position) :
    List Char → Option (List Char × Bool × Position × List Char)
  | [] => some ([], held.broken, p, [])
  | '\r' :: '\n' :: rest => readPlain flow floor (held.addBreak '\n') (p.nextLine 2) rest
  | c :: rest =>
      if isBreak c then readPlain flow floor (held.addBreak (breakContent c)) (p.nextLine 1) rest
      else if isBlank c then
        if c == '\t' && held.broken && p.column < floor then none
        else readPlain flow floor (held.addBlank c) (p.move 1) rest
      else if endsPlain flow floor held p (c :: rest) then some ([], held.broken, p, c :: rest)
      else if isStrayColon flow (c :: rest) then none
      else (readPlain flow floor {} (p.move 1) rest).map fun tail =>
        (held.folded ++ c :: tail.1, tail.2)

/-- The content of a scalar in single quotes, behind the opening one; a quote in it is doubled. -/
def readSingleQuoted (held : Held) (p : Position) :
    List Char → Option (List Char × Position × List Char)
  | [] => none
  | '\r' :: '\n' :: rest => readSingleQuoted (held.addBreak '\n') (p.nextLine 2) rest
  | c :: rest =>
      if isBreak c then readSingleQuoted (held.addBreak (breakContent c)) (p.nextLine 1) rest
      else if isBlank c then readSingleQuoted (held.addBlank c) (p.move 1) rest
      else if p.column == 0 && startsMark (c :: rest) then none
      else if c == '\'' then
        match rest with
        | '\'' :: more =>
            (readSingleQuoted {} (p.move 2) more).map fun tail =>
              (held.folded ++ '\'' :: tail.1, tail.2)
        | _ => some (held.folded, p.move 1, rest)
      else (readSingleQuoted {} (p.move 1) rest).map fun tail =>
        (held.folded ++ c :: tail.1, tail.2)

/-- The character of a one-letter escape in double quotes. -/
def escaped? : Char → Option Char
  | '0' => some '\x00'
  | 'a' => some '\x07'
  | 'b' => some '\x08'
  | 't' => some '\t'
  | '\t' => some '\t'
  | 'n' => some '\n'
  | 'v' => some '\x0b'
  | 'f' => some '\x0c'
  | 'r' => some '\r'
  | 'e' => some '\x1b'
  | ' ' => some ' '
  | '"' => some '"'
  | '/' => some '/'
  | '\\' => some '\\'
  | 'N' => some '\x85'
  | '_' => some '\u00a0'
  | 'L' => some '\u2028'
  | 'P' => some '\u2029'
  | _ => none

/-- The character of a numeric escape. -/
def codePoint? (digits : List Char) : Option Char :=
  (natOfDigits? 16 digits).bind fun n =>
    if n.isValidChar then some (Char.ofNat n) else none

/-- The content of a scalar in double quotes, behind the opening one. -/
def readDoubleQuoted (held : Held) (p : Position) :
    List Char → Option (List Char × Position × List Char)
  | [] => none
  | '\r' :: '\n' :: rest => readDoubleQuoted (held.addBreak '\n') (p.nextLine 2) rest
  | '\\' :: '\r' :: '\n' :: rest =>
      (readDoubleQuoted Held.escapedBreak ((p.move 1).nextLine 2) rest).map fun tail =>
        (held.folded ++ tail.1, tail.2)
  | '\\' :: 'x' :: a :: b :: rest =>
      match codePoint? [a, b] with
      | some c => (readDoubleQuoted {} (p.move 4) rest).map fun tail =>
          (held.folded ++ c :: tail.1, tail.2)
      | none => none
  | '\\' :: 'u' :: a :: b :: c :: d :: rest =>
      match codePoint? [a, b, c, d] with
      | some e => (readDoubleQuoted {} (p.move 6) rest).map fun tail =>
          (held.folded ++ e :: tail.1, tail.2)
      | none => none
  | '\\' :: 'U' :: a :: b :: c :: d :: e :: f :: g :: h :: rest =>
      match codePoint? [a, b, c, d, e, f, g, h] with
      | some i => (readDoubleQuoted {} (p.move 10) rest).map fun tail =>
          (held.folded ++ i :: tail.1, tail.2)
      | none => none
  | '\\' :: c :: rest =>
      if isBreak c then
        (readDoubleQuoted Held.escapedBreak ((p.move 1).nextLine 1) rest).map fun tail =>
          (held.folded ++ tail.1, tail.2)
      else match escaped? c with
        | some e => (readDoubleQuoted {} (p.move 2) rest).map fun tail =>
            (held.folded ++ e :: tail.1, tail.2)
        | none => none
  | c :: rest =>
      if isBreak c then readDoubleQuoted (held.addBreak (breakContent c)) (p.nextLine 1) rest
      else if isBlank c then readDoubleQuoted (held.addBlank c) (p.move 1) rest
      else if p.column == 0 && startsMark (c :: rest) then none
      else if c == '"' then some (held.folded, p.move 1, rest)
      else (readDoubleQuoted {} (p.move 1) rest).map fun tail =>
        (held.folded ++ c :: tail.1, tail.2)

end ComponentGen.Yaml

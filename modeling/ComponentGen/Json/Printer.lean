import ComponentGen.Data.Json
import ComponentGen.Number.Shortest

/-!
# Writing JSON

JSON text with one value a line, indented by two blanks for each level.  Empty arrays and
objects stay on one line.
-/

namespace ComponentGen.Json

open Number

/-- A lower-case hexadecimal digit. -/
def hexDigit (n : Nat) : Char := (Nat.toDigits 16 n).headD '0'

/-- A character as it is written in a text: quotes, backslashes and control characters are
escaped, with a one-letter escape where there is one. -/
def escape (c : Char) : List Char :=
  match c with
  | '"' => ['\\', '"']
  | '\\' => ['\\', '\\']
  | '\x08' => ['\\', 'b']
  | '\x0c' => ['\\', 'f']
  | '\n' => ['\\', 'n']
  | '\r' => ['\\', 'r']
  | '\t' => ['\\', 't']
  | _ =>
      if c.toNat < 0x20 then
        ['\\', 'u', '0', '0', hexDigit (c.toNat / 16), hexDigit (c.toNat % 16)]
      else [c]

/-- A text with its quotes. -/
def quoted (s : String) : List Char := '"' :: s.toList.flatMap escape ++ ['"']

/-- A double, if it is finite. -/
def floatText : Binary64 → List Char
  | .finite negative m e => Binary64.dataText negative m e
  | _ => ['n', 'u', 'l', 'l']

/-- A line end and the indentation of the line behind it. -/
def newLine (indent : Nat) : List Char := '\n' :: List.replicate (2 * indent) ' '

mutual

/-- A value whose first line stands at the given level of indentation. -/
def printed (indent : Nat) : Json → List Char
  | .null => ['n', 'u', 'l', 'l']
  | .bool true => ['t', 'r', 'u', 'e']
  | .bool false => ['f', 'a', 'l', 's', 'e']
  | .int n => (intText n).toList
  | .float x => floatText x
  | .text s => quoted s
  | .array [] => ['[', ']']
  | .array (v :: rest) =>
      '[' :: newLine (indent + 1) ++ printed (indent + 1) v ++ printedItems (indent + 1) rest ++
        newLine indent ++ [']']
  | .object [] => ['\x7b', '\x7d']
  | .object ((k, v) :: rest) =>
      '\x7b' :: newLine (indent + 1) ++ quoted k ++ [':', ' '] ++ printed (indent + 1) v ++
        printedFields (indent + 1) rest ++ newLine indent ++ ['\x7d']

/-- The items of an array behind the first one. -/
def printedItems (indent : Nat) : List Json → List Char
  | [] => []
  | v :: rest => ',' :: newLine indent ++ printed indent v ++ printedItems indent rest

/-- The fields of an object behind the first one. -/
def printedFields (indent : Nat) : List (String × Json) → List Char
  | [] => []
  | (k, v) :: rest =>
      ',' :: newLine indent ++ quoted k ++ [':', ' '] ++ printed indent v ++
        printedFields indent rest

end

/-- The JSON text of a value. -/
def print (v : Json) : String := String.ofList (printed 0 v)

end ComponentGen.Json

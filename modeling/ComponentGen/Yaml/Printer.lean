import ComponentGen.Number.Shortest
import ComponentGen.Yaml.WrittenText

/-!
# Writing YAML

YAML text with one entry or item a line.  The entries of a map that is a value are indented by
two blanks; the items of a list that is a value stand at the column of its key.  Empty lists and
maps are written in brackets.
-/

namespace ComponentGen.Yaml

open Number

/-- A double, in a spelling that is read as a double. -/
def floatText : Binary64 → List Char
  | .notANumber => ".nan".toList
  | .infinite negative => if negative then "-.inf".toList else ".inf".toList
  | .finite negative m e => Binary64.dataText negative m e

/-- A value without parts, with the end of its last line.  The lines behind the first one are
indented. -/
def printedLeaf (indent : Nat) : Json → List Char
  | .null => "null\n".toList
  | .bool true => "true\n".toList
  | .bool false => "false\n".toList
  | .int n => (intText n).toList ++ ['\n']
  | .float x => floatText x ++ ['\n']
  | .text s => writtenText indent s
  | .array _ => ['[', ']', '\n']
  | .object _ => ['\x7b', '\x7d', '\n']

mutual

/-- A value behind its key in a map at the given column, with the end of its last line. -/
def printedValue (column : Nat) : Json → List Char
  | .array (v :: rest) => '\n' :: printedItems column (v :: rest)
  | .object (entry :: rest) => '\n' :: printedEntries (column + 2) (entry :: rest)
  | v => ' ' :: printedLeaf (column + 2) v
termination_by structural v => v

/-- A value behind the dash of an item at the given column, with the end of its last line. -/
def printedItem (column : Nat) : Json → List Char
  | .array (v :: rest) =>
      ['-', ' '] ++ printedItem (column + 2) v ++ printedItems (column + 2) rest
  | .object ((k, v) :: rest) =>
      writtenKey k ++ ':' :: printedValue (column + 2) v ++ printedEntries (column + 2) rest
  | v => printedLeaf (column + 2) v
termination_by structural v => v

/-- The items of a list at the given column. -/
def printedItems (column : Nat) : List Json → List Char
  | [] => []
  | v :: rest => margin column ++ ['-', ' '] ++ printedItem column v ++ printedItems column rest
termination_by structural items => items

/-- The entries of a map at the given column. -/
def printedEntries (column : Nat) : List (String × Json) → List Char
  | [] => []
  | entry :: rest => printedEntry column entry ++ printedEntries column rest
termination_by structural entries => entries

/-- An entry of a map at the given column. -/
def printedEntry (column : Nat) : String × Json → List Char
  | (k, v) => margin column ++ writtenKey k ++ ':' :: printedValue column v
termination_by structural entry => entry

end

/-- The YAML text of a value. -/
def print : Json → String
  | .array (v :: rest) => String.ofList (printedItems 0 (v :: rest))
  | .object (entry :: rest) => String.ofList (printedEntries 0 (entry :: rest))
  | v => String.ofList (printedLeaf 2 v)

end ComponentGen.Yaml

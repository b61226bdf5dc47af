import ComponentGen.Text.CaseTable

/-!
# Characters: blanks and letter case

White space and letter case as the character database defines them.  ASCII is decided by
arithmetic and everything else by the tables of `ComponentGen.Text.CaseTable`.  Case mapping
is full: one character may become several (`ß` becomes `SS`), so the maps return lists.
-/

namespace ComponentGen.Text

/-- White space: the blanks, tabs and line ends of every script. -/
def isSpace (c : Char) : Bool :=
  let code := c.toNat
  (9 ≤ code && code ≤ 13) || code == 0x20 || code == 0x85 || code == 0xA0 || code == 0x1680 ||
    (0x2000 ≤ code && code ≤ 0x200A) || code == 0x2028 || code == 0x2029 || code == 0x202F ||
    code == 0x205F || code == 0x3000

/-- The characters that ASCII case arithmetic decides. -/
def isAscii (c : Char) : Bool := c.toNat < 0x80

/-- Upper-case letters of every script. -/
def isUpper (c : Char) : Bool :=
  if isAscii c then c.isUpper else CaseTable.upper.any (·.contains c.toNat)

/-- Lower-case letters of every script. -/
def isLower (c : Char) : Bool :=
  if isAscii c then c.isLower else CaseTable.lower.any (·.contains c.toNat)

/-- Letters that have case at all. -/
def isCased (c : Char) : Bool :=
  isUpper c || isLower c || CaseTable.title.any (·.contains c.toNat)

/-- Marks and punctuation that do not end a word when a final sigma is looked for. -/
def isCaseIgnorable (c : Char) : Bool :=
  CaseTable.ignorable.any (·.contains c.toNat)

/-- The single character that a case table gives for `c`, if it has an entry for it. -/
def CaseTable.shifted (table : List CaseRun) (c : Char) : Option Char :=
  (table.find? (·.codes.contains c.toNat)).map fun run =>
    Char.ofNat (Int.ofNat c.toNat + run.shift).toNat

/-- Full case mapping of one character: the sequence table first, then the shifts. -/
def CaseTable.mapped (expansions : List (Nat × List Nat)) (shifts : List CaseRun) (c : Char) :
    List Char :=
  match expansions.lookup c.toNat with
  | some codes => codes.map Char.ofNat
  | none => [(CaseTable.shifted shifts c).getD c]

/-- The upper case of one character. -/
def upperCase (c : Char) : List Char :=
  if isAscii c then [c.toUpper]
  else CaseTable.mapped CaseTable.expandUpper CaseTable.toUpper c

/-- The lower case of one character, outside any word. -/
def lowerCase (c : Char) : List Char :=
  if isAscii c then [c.toLower]
  else CaseTable.mapped CaseTable.expandLower CaseTable.toLower c

/-- Whether the nearest character that counts for case is a letter with case. -/
def meetsCased (cs : List Char) : Bool :=
  match cs.dropWhile isCaseIgnorable with
  | [] => false
  | c :: _ => isCased c

/-- A capital sigma becomes `ς` at the end of a word and `σ` elsewhere.  `before` lists the
characters in front of it, nearest first. -/
def lowerSigma (before after : List Char) : Char :=
  if meetsCased before && !meetsCased after then 'ς' else 'σ'

/-- Lower case of the rest of a text whose earlier characters are `before`, nearest first. -/
def lowerFrom (before : List Char) : List Char → List Char
  | [] => []
  | c :: rest =>
      (if c = 'Σ' then [lowerSigma before rest] else lowerCase c) ++ lowerFrom (c :: before) rest

/-- Lower case of a whole text. -/
def lowerText (s : String) : String :=
  String.ofList (lowerFrom [] s.toList)

end ComponentGen.Text

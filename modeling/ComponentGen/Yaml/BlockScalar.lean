import ComponentGen.Yaml.FlowScalar

/-!
# Literal and folded YAML scalars

Scalars written as indented lines behind `|` or `>`.  The indentation is that of the first
line with content unless the header gives it; the header also says what happens to the line
ends behind the last line.
-/

namespace ComponentGen.Yaml

open Number

/-- What happens to the line ends behind the last line: all but one are dropped, all are
dropped, or all are kept. -/
inductive Chomping where
  | clip
  | strip
  | keep
  deriving Repr, DecidableEq

/-- What stands behind `|` or `>`. -/
structure BlockHeader where
  chomping : Chomping := .clip
  increment : Nat := 0
  deriving Repr, DecidableEq

/-- A sign that says what happens to the last line ends. -/
def chomping? : Char → Option Chomping
  | '+' => some .keep
  | '-' => some .strip
  | _ => none

/-- The header of a block scalar in either order of its two parts; an indentation of zero is an
error. -/
def readHeader? : List Char → Option (BlockHeader × Nat × List Char)
  | c :: d :: rest =>
      match chomping? c with
      | some chomping =>
          if d == '0' then none
          else if d.isDigit then some ({ chomping, increment := digitValue d }, 2, rest)
          else some ({ chomping }, 1, d :: rest)
      | none =>
          if c == '0' then none
          else if c.isDigit then
            match chomping? d with
            | some chomping => some ({ chomping, increment := digitValue c }, 2, rest)
            | none => some ({ increment := digitValue c }, 1, d :: rest)
          else some ({}, 0, c :: d :: rest)
  | [c] =>
      match chomping? c with
      | some chomping => some ({ chomping }, 1, [])
      | none =>
          if c == '0' then none
          else if c.isDigit then some ({ increment := digitValue c }, 1, [])
          else some ({}, 0, [c])
  | [] => some ({}, 0, [])

/-- Passes over blanks, a comment and the line end behind a header. -/
def finishLine? (comment : Bool) (p : Position) : List Char → Option (Position × List Char)
  | [] => some (p, [])
  | '\r' :: '\n' :: rest => some (p.nextLine 2, rest)
  | c :: rest =>
      if isBreak c then some (p.nextLine 1, rest)
      else if comment || isBlank c then finishLine? comment (p.move 1) rest
      else if c == '#' then finishLine? true (p.move 1) rest
      else none

/-- The state between two lines of a block scalar.  The indentation is zero while it is not
known; `widest` is the widest margin seen until then. -/
structure BlockState where
  indent : Nat
  widest : Nat := 0
  lineBreak : List Char := []
  emptyLines : List Char := []
  afterBlank : Bool := false
  deriving Repr, DecidableEq

namespace BlockState

/-- What is put in front of a line that starts with `c`.  In a folded scalar a single line end
between two lines that start with no blank becomes a blank. -/
def joint (s : BlockState) (folding : Bool) (c : Char) : List Char :=
  if folding && s.lineBreak == ['\n'] && !s.afterBlank && !isBlank c then
    if s.emptyLines.isEmpty then [' '] else s.emptyLines
  else s.lineBreak ++ s.emptyLines

/-- The line ends that stay behind the last line. -/
def tail (s : BlockState) : Chomping → List Char
  | .strip => []
  | .clip => s.lineBreak
  | .keep => s.lineBreak ++ s.emptyLines

/-- Whether the cursor is still in the margin of its line. -/
def inMargin (s : BlockState) (p : Position) : Bool := s.indent == 0 || p.column < s.indent

/-- The indentation, once a line with content starts at the given column. -/
def settled (s : BlockState) (least column : Nat) : Nat :=
  if s.indent = 0 then max (max s.widest column) (max least 1) else s.indent

/-- Passes an empty line. -/
def addEmptyLine (s : BlockState) (c : Char) (column : Nat) : BlockState :=
  { s with emptyLines := s.emptyLines ++ [c], widest := max s.widest column }

end BlockState

/-- The content of a block scalar, and what follows it.  `inLine` tells whether the cursor is
behind the first character of a line. -/
def readBlock (folding : Bool) (chomping : Chomping) (least : Nat) (s : BlockState)
    (inLine : Bool) (p : Position) : List Char → Option (List Char × Position × List Char)
  | [] => some (s.tail chomping, p, [])
  | '\r' :: '\n' :: rest =>
      if inLine then
        readBlock folding chomping least { s with lineBreak := ['\n'] } false (p.nextLine 2) rest
      else
        readBlock folding chomping least (s.addEmptyLine '\n' p.column) false (p.nextLine 2) rest
  | c :: rest =>
      if inLine then
        if isBreak c then
          readBlock folding chomping least { s with lineBreak := [breakContent c] } false
            (p.nextLine 1) rest
        else (readBlock folding chomping least s true (p.move 1) rest).map fun tail =>
          (c :: tail.1, tail.2)
      else if s.inMargin p && c == ' ' then
        readBlock folding chomping least s false (p.move 1) rest
      else if s.inMargin p && c == '\t' then none
      else if isBreak c then
        readBlock folding chomping least (s.addEmptyLine (breakContent c) p.column) false
          (p.nextLine 1) rest
      else if p.column == s.settled least p.column then
        (readBlock folding chomping least
            { indent := s.settled least p.column, afterBlank := isBlank c } true
            (p.move 1) rest).map fun tail => (s.joint folding c ++ c :: tail.1, tail.2)
      else some (s.tail chomping, p, c :: rest)

/-- A block scalar behind its indicator.  `floor` is the least column of what belongs to the
collection around it. -/
def readBlockScalar (folding : Bool) (floor : Nat) (p : Position) (cs : List Char) :
    Option (List Char × Position × List Char) := do
  let (header, n, cs) ← readHeader? cs
  let (p, cs) ← finishLine? false (p.move n) cs
  let indent := if header.increment = 0 then 0 else (floor - 1) + header.increment
  readBlock folding header.chomping floor { indent } false p cs

end ComponentGen.Yaml

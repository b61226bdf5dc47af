import ComponentGen.Data.Node

/-!
# Positions in a YAML text

A cursor is a place in a YAML text together with what the text in front of it decides: the
line and column, whether a key may start here without a mark, and the anchors and tag handles
in force.  `Cursor.toToken` passes over everything that lies between two tokens.
-/

namespace ComponentGen.Yaml

/-- The characters that end a line. -/
def isBreak (c : Char) : Bool :=
  c == '\n' || c == '\r' || c == '\x85' || c == '\u2028' || c == '\u2029'

/-- The content of a line end: the separators of lines and paragraphs stand for themselves and
all others for a line feed. -/
def breakContent (c : Char) : Char :=
  if c == '\u2028' || c == '\u2029' then c else '\n'

/-- The characters between words of a line. -/
def isBlank (c : Char) : Bool := c == ' ' || c == '\t'

/-- Whether a text is at its end or goes on with a blank or a line end. -/
def startsBlank : List Char → Bool
  | [] => true
  | c :: _ => isBlank c || isBreak c

/-- Whether a text starts with a document mark, `---` or `...` before a blank. -/
def startsMark : List Char → Bool
  | '-' :: '-' :: '-' :: rest => startsBlank rest
  | '.' :: '.' :: '.' :: rest => startsBlank rest
  | _ => false

/-- Whether a text starts with an indicator that only counts in front of a blank. -/
def startsIndicator (indicator : Char) : List Char → Bool
  | c :: rest => c == indicator && startsBlank rest
  | [] => false

/-- The characters of anchor names and tag handles. -/
def isWordChar (c : Char) : Bool := c.isAlphanum || c == '-' || c == '_'

/-- A line, a column and the number of characters in front. -/
structure Position where
  line : Nat := 0
  column : Nat := 0
  index : Nat := 0
  deriving Repr, DecidableEq

namespace Position

/-- The position behind some characters of a line. -/
def move (p : Position) (n : Nat) : Position :=
  { p with column := p.column + n, index := p.index + n }

/-- The start of the next line, behind a line end of `n` characters. -/
def nextLine (p : Position) (n : Nat) : Position :=
  { line := p.line + 1, column := 0, index := p.index + n }

end Position

/-- A place in a YAML text.  An anchor is listed without a node while the list or map that
carries it is still being read. -/
structure Cursor where
  rest : List Char
  position : Position := {}
  keyAllowed : Bool := true
  anchors : List (String × Option Node) := []
  handles : List (String × String) := []

namespace Cursor

/-- The column of the cursor. -/
def column (c : Cursor) : Nat := c.position.column

/-- The line of the cursor. -/
def line (c : Cursor) : Nat := c.position.line

/-- The cursor behind some characters of its line. -/
def skip (c : Cursor) (n : Nat) : Cursor :=
  { c with rest := c.rest.drop n, position := c.position.move n }

/-- Whether the document ends here: at the end of the text or at a document mark. -/
def atDocumentEnd (c : Cursor) : Bool :=
  c.rest.isEmpty || (c.column == 0 && startsMark c.rest)

/-- Passes over blanks, comments and line ends.  A tab does not count as a blank where a key
may start, except inside brackets; a line end outside brackets allows a key. -/
def toTokenFrom (flow comment keyAllowed : Bool) (p : Position) :
    List Char → List Char × Position × Bool
  | [] => ([], p, keyAllowed)
  | '\r' :: '\n' :: rest => toTokenFrom flow false (keyAllowed || !flow) (p.nextLine 2) rest
  | c :: rest =>
      if isBreak c then toTokenFrom flow false (keyAllowed || !flow) (p.nextLine 1) rest
      else if comment || c == ' ' || (c == '\t' && (flow || !keyAllowed)) ||
          (c == '\uFEFF' && p.column == 0) then
        toTokenFrom flow comment keyAllowed (p.move 1) rest
      else if c == '#' then toTokenFrom flow true keyAllowed (p.move 1) rest
      else (c :: rest, p, keyAllowed)

/-- The cursor at the next token. -/
def toToken (flow : Bool) (c : Cursor) : Cursor :=
  let (rest, position, keyAllowed) := toTokenFrom flow false c.keyAllowed c.position c.rest
  { c with rest, position, keyAllowed }

/-- Whether a key that started at `start` may end here: it must have started where keys may,
and on this line, and no more than 1024 characters ago. -/
def endsKey (start c : Cursor) : Bool :=
  start.keyAllowed && start.line == c.line && c.position.index ≤ start.position.index + 1024

end Cursor

end ComponentGen.Yaml

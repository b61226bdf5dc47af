import ComponentGen.Yaml.Reader

/-!
# Writing YAML texts

How a text is written as a scalar.  A text of several lines is written literally.  Any other text
is written plainly if a plain scalar with its spelling would be read as that text, in single
quotes if it would be read as something else, and in double quotes if it holds characters that
have to be escaped.
-/

namespace ComponentGen.Yaml

/-- How a text is written. -/
inductive TextStyle where
  | plain
  | singleQuoted
  | doubleQuoted
  | literal
  deriving Repr, DecidableEq

/-- The characters that may be written as they are. -/
def isPrintable (c : Char) : Bool :=
  c == '\n' || (0x20 ≤ c.toNat && c.toNat ≤ 0x7E) || (0xA0 ≤ c.toNat && c.toNat ≤ 0xD7FF) ||
    (0xE000 ≤ c.toNat && c.toNat ≤ 0xFFFD && c != '\uFEFF') || 0x10000 ≤ c.toNat

/-- Whether two neighbouring characters are such that the first has one property and the second
another. -/
def hasNeighbours (first second : Char → Bool) : List Char → Bool
  | a :: b :: rest => (first a && second b) || hasNeighbours first second (b :: rest)
  | _ => false

/-- Whether a mark behind the first character would end a plain scalar: a colon in front of a
blank or a comment sign behind one. -/
def hasInnerMark : List Char → Bool
  | a :: b :: rest =>
      (b == ':' && startsBlank rest) || (b == '#' && (isBlank a || isBreak a)) ||
        hasInnerMark (b :: rest)
  | _ => false

/-- Whether a text starts with the characters of a document mark. -/
def startsLikeMark : List Char → Bool
  | '-' :: '-' :: '-' :: _ => true
  | '.' :: '.' :: '.' :: _ => true
  | _ => false

/-- Whether the last character is a blank. -/
def endsWithSpace (cs : List Char) : Bool := cs.getLast? == some ' '

/-- Texts whose characters need no escape and that keep their blanks at the ends of lines. -/
def keepsCharacters (cs : List Char) : Bool :=
  cs.all isPrintable && !hasNeighbours (· == ' ') isBreak cs

/-- Texts that may be written without quotes. -/
def fitsPlain (cs : List Char) : Bool :=
  keepsCharacters cs && startsPlain false cs && !startsLikeMark cs && !hasInnerMark cs &&
    !endsWithSpace cs && !cs.any isBreak

/-- Texts that may be written in single quotes. -/
def fitsSingleQuotes (cs : List Char) : Bool :=
  keepsCharacters cs && !hasNeighbours isBreak (· == ' ') cs

/-- Texts that may be written as indented lines. -/
def fitsLiteral (cs : List Char) : Bool :=
  keepsCharacters cs && !endsWithSpace cs

/-- The style of a text of one line, as keys are. -/
def lineStyle (s : String) : TextStyle :=
  if fitsPlain s.toList && isPlainText s then .plain
  else if fitsSingleQuotes s.toList then .singleQuoted
  else .doubleQuoted

/-- The style of a text. -/
def textStyle (s : String) : TextStyle :=
  if s.toList.contains '\n' then
    if fitsLiteral s.toList then .literal else .doubleQuoted
  else lineStyle s

/-- A line of blanks. -/
def margin (indent : Nat) : List Char := List.replicate indent ' '

/-- An upper-case hexadecimal digit. -/
def upperHexDigit (n : Nat) : Char := ((Nat.toDigits 16 n).headD '0').toUpper

/-- The last `digits` hexadecimal digits of a number. -/
def hexText : Nat → Nat → List Char
  | 0, _ => []
  | digits + 1, n => hexText digits (n / 16) ++ [upperHexDigit (n % 16)]

/-- A character in double quotes. -/
def escape (c : Char) : List Char :=
  if isPrintable c && !isBreak c && c != '"' && c != '\\' then [c]
  else '\\' :: match c with
    | '\x00' => ['0']
    | '\x07' => ['a']
    | '\x08' => ['b']
    | '\t' => ['t']
    | '\n' => ['n']
    | '\x0b' => ['v']
    | '\x0c' => ['f']
    | '\r' => ['r']
    | '\x1b' => ['e']
    | '"' => ['"']
    | '\\' => ['\\']
    | '\x85' => ['N']
    | '\u2028' => ['L']
    | '\u2029' => ['P']
    | _ =>
        if c.toNat ≤ 0xFF then 'x' :: hexText 2 c.toNat
        else if c.toNat ≤ 0xFFFF then 'u' :: hexText 4 c.toNat
        else 'U' :: hexText 8 c.toNat

/-- A text in double quotes. -/
def doubleQuoted (cs : List Char) : List Char := '"' :: cs.flatMap escape ++ ['"']

/-- The content of single quotes.  A quote is written twice, and what follows a line end is
indented. -/
def singleContent (indent : Nat) (afterBreak : Bool) : List Char → List Char
  | [] => if afterBreak then margin indent else []
  | c :: rest =>
      if isBreak c then c :: singleContent indent true rest
      else
        (if afterBreak then margin indent else []) ++
          (if c == '\'' then ['\'', '\''] else [c]) ++ singleContent indent false rest

/-- A text in single quotes. -/
def singleQuoted (indent : Nat) (cs : List Char) : List Char :=
  '\'' :: singleContent indent false cs ++ ['\'']

/-- The sign for the line ends behind the last line of a literal scalar. -/
def chompingSign (cs : List Char) : List Char :=
  match cs.reverse with
  | [] => ['-']
  | [c] => if isBreak c then ['+'] else ['-']
  | c :: d :: _ => if !isBreak c then ['-'] else if isBreak d then ['+'] else []

/-- The sign for the indentation of a literal scalar, which is needed when its first line does
not show it. -/
def indentationSign : List Char → List Char
  | [] => []
  | c :: _ => if c == ' ' || isBreak c then ['2'] else []

/-- The lines of a literal scalar, each with its line end; empty lines are not indented. -/
def literalLines (indent : Nat) (lineStart : Bool) : List Char → List Char
  | [] => if lineStart then [] else ['\n']
  | c :: rest =>
      if isBreak c then c :: literalLines indent true rest
      else (if lineStart then margin indent else []) ++ c :: literalLines indent false rest

/-- A text as a scalar, with the end of its last line.  The lines behind the first one are
indented. -/
def writtenText (indent : Nat) (s : String) : List Char :=
  let cs := s.toList
  match textStyle s with
  | .plain => cs ++ ['\n']
  | .singleQuoted => singleQuoted indent cs ++ ['\n']
  | .doubleQuoted => doubleQuoted cs ++ ['\n']
  | .literal =>
      '|' :: indentationSign cs ++ chompingSign cs ++ '\n' :: literalLines indent true cs

/-- A text as a key. -/
def writtenKey (s : String) : List Char :=
  let cs := s.toList
  match lineStyle s with
  | .plain => cs
  | .singleQuoted => if cs.any isBreak then doubleQuoted cs else singleQuoted 0 cs
  | _ => doubleQuoted cs

end ComponentGen.Yaml

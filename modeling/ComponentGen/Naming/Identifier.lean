import ComponentGen.Text.Letter

/-!
# Words of an identifier

An identifier in camel case is cut into words, and the words make a title.  A word is a run of
characters of one class, except that the last capital of a run belongs to the word of the small
letters that follow.
-/

namespace ComponentGen.Naming

open Text

/-- The class of a character in an identifier.  A character that is neither a letter with case
nor an ASCII digit is in a class of its own. -/
inductive CharClass where
  | upper
  | lower
  | digit
  | other (c : Char)
  deriving Repr, DecidableEq

/-- The class of a character. -/
def CharClass.of (c : Char) : CharClass :=
  if isUpper c then .upper
  else if isLower c then .lower
  else if c.isDigit then .digit
  else .other c

/-- An identifier that is read from its beginning: the words that are finished, and the word that
may still grow.  The last character of that word stands apart, since its class decides what
becomes of the next one. -/
structure Splitting where
  finished : List (List Char) := []
  front : List Char := []
  last : Char
  deriving Repr, DecidableEq

namespace Splitting

/-- The word that may still grow. -/
def word (s : Splitting) : List Char := s.front ++ [s.last]

/-- The words, if the identifier ends here. -/
def words (s : Splitting) : List (List Char) := s.finished ++ [s.word]

/-- The next character belongs to the same word. -/
def grow (s : Splitting) (c : Char) : Splitting := { s with front := s.word, last := c }

/-- Reads the next character.  A word ends where the class of characters changes; but a small
letter takes the capital in front of it into its own word. -/
def read (s : Splitting) (c : Char) : Splitting :=
  let before := CharClass.of s.last
  let next := CharClass.of c
  if next = before then s.grow c
  else if next = .lower ∧ before = .upper then
    if s.front = [] then s.grow c
    else { finished := s.finished ++ [s.front], front := [s.last], last := c }
  else { finished := s.words, last := c }

end Splitting

/-- The words of an identifier. -/
def words : List Char → List (List Char)
  | [] => []
  | c :: rest => (rest.foldl Splitting.read { last := c }).words

/-- The words of an identifier, as texts. -/
def splitWords (identifier : String) : List String :=
  (words identifier.toList).map String.ofList

/-- A text with its first character in upper case. -/
def capitalize (s : String) : String :=
  match s.toList with
  | [] => ""
  | c :: rest => String.ofList (upperCase c ++ rest)

/-- The title of an identifier: its words in lower case, the first one capitalized. -/
def title (identifier : String) : String :=
  capitalize (lowerText (" ".intercalate (splitWords identifier)))

/-- The name of a property from the part of a method's name that is about it: the first letter
becomes small, unless the name starts with two capitals. -/
def decapitalize (s : String) : String :=
  match s.toList with
  | [] => ""
  | [c] => String.ofList (lowerCase c)
  | c :: d :: rest =>
      if isUpper c && isUpper d then s else String.ofList (lowerCase c ++ d :: rest)

end ComponentGen.Naming

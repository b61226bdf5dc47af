import ComponentGen.Text.Letter

/-!
# Trimming and cutting texts

White space at the ends of a text, texts that hold nothing else, and the cut of a text at its
first blank, at a mark or behind a given beginning.  The functions on lists carry the content;
those on `String` wrap them.
-/

namespace ComponentGen.Text

/-- A list of characters without the white space it starts with. -/
def trimLeft (cs : List Char) : List Char := cs.dropWhile isSpace

/-- A list of characters without the white space it ends with. -/
def trimRight (cs : List Char) : List Char := (trimLeft cs.reverse).reverse

/-- A text without the white space at both ends. -/
def trim (s : String) : String :=
  String.ofList (trimRight (trimLeft s.toList))

/-- A text that holds white space only. -/
def isBlank (s : String) : Bool := s.toList.all isSpace

/-- The trimmed text, unless nothing is left of it. -/
def nonBlank? (s : String) : Option String :=
  if isBlank s then none else some (trim s)

/-- Cuts a text at its first white-space character, which belongs to neither part. -/
def splitAtSpace? (s : String) : Option (String × String) :=
  match s.toList.span (!isSpace ·) with
  | (_, []) => none
  | (key, _ :: rest) => some (String.ofList key, String.ofList rest)

/-- What follows a given beginning of a list of characters. -/
def after? (start cs : List Char) : Option (List Char) :=
  if start.isPrefixOf cs then some (cs.drop start.length) else none

/-- The characters in front of the first occurrence of a mark, and those behind it. -/
def cutAt? (mark : List Char) : List Char → Option (List Char × List Char)
  | [] => none
  | c :: rest =>
      match after? mark (c :: rest) with
      | some behind => some ([], behind)
      | none => (cutAt? mark rest).map fun cut => (c :: cut.1, cut.2)

/-- What follows a given beginning of a text. -/
def afterPrefix? (start s : String) : Option String :=
  (after? start.toList s.toList).map String.ofList

/-- The part of a text behind the last occurrence of a separator, or all of it. -/
def lastSegment (separator : Char) (s : String) : String :=
  String.ofList (s.toList.reverse.takeWhile (· != separator)).reverse

/-- The part of a text in front of the first occurrence of a separator, or all of it. -/
def firstSegment (separator : Char) (s : String) : String :=
  String.ofList (s.toList.takeWhile (· != separator))

end ComponentGen.Text

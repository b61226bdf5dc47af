/-!
# Writing XML

Documents are laid out with one element a line, or with the tags of an element that holds others
on lines of their own, indented by two blanks for each level.
-/

namespace ComponentGen.Xml

/-- An element as it is laid out: without content, with a text on the same line, or with other
elements on lines of their own. -/
inductive Markup where
  | empty (name : String) (attributes : List (String × String))
  | text (name : String) (content : String)
  | block (name : String) (attributes : List (String × String)) (children : List Markup)
  deriving Repr, Inhabited

/-- A character as it is written in texts and attribute values.  Characters that no document may
hold are left out. -/
def escape (c : Char) : List Char :=
  match c with
  | '&' => "&amp;".toList
  | '<' => "&lt;".toList
  | '>' => "&gt;".toList
  | '"' => "&quot;".toList
  | '\'' => "&apos;".toList
  | '\t' | '\n' | '\r' => [c]
  | _ => if c.toNat < 0x20 || c == '\uFFFE' || c == '\uFFFF' then [] else [c]

/-- A text with its special characters escaped. -/
def escaped (s : String) : List Char := s.toList.flatMap escape

/-- The attributes of a start tag. -/
def printedAttributes : List (String × String) → List Char
  | [] => []
  | (name, value) :: rest =>
      ' ' :: name.toList ++ ['=', '"'] ++ escaped value ++ ['"'] ++ printedAttributes rest

/-- The blanks in front of a line. -/
def margin (level : Nat) : List Char := List.replicate (2 * level) ' '

/-- An end tag. -/
def endTag (name : String) : List Char := '<' :: '/' :: name.toList ++ ['>']

namespace Markup

mutual

/-- An element with its line ends. -/
def printed (level : Nat) : Markup → List Char
  | .empty name attributes =>
      margin level ++ '<' :: name.toList ++ printedAttributes attributes ++ ['/', '>', '\n']
  | .text name content =>
      margin level ++ '<' :: name.toList ++ '>' :: escaped content ++ endTag name ++ ['\n']
  | .block name attributes children =>
      margin level ++ '<' :: name.toList ++ printedAttributes attributes ++ ['>', '\n'] ++
        printedAll (level + 1) children ++ margin level ++ endTag name ++ ['\n']

/-- Elements one after the other. -/
def printedAll (level : Nat) : List Markup → List Char
  | [] => []
  | element :: rest => printed level element ++ printedAll level rest

end

/-- The document with an element at its root. -/
def print (root : Markup) : String :=
  String.ofList ("<?xml version=\"1.0\" encoding=\"UTF-8\"?>\n".toList ++ printed 0 root)

end Markup

end ComponentGen.Xml

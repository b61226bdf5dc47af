import ComponentGen.Text.Trim

/-!
# First sentences

The first sentence of a comment.  A sentence ends with marks such as a full stop, perhaps with
closing quotes or brackets, and the blanks behind them, unless a small letter follows; it also
ends at a blank line.  The blanks that follow a mark in front of a small letter are passed over
as a whole, so a blank line among them ends nothing.
-/

namespace ComponentGen.Naming

open Text

/-- The marks that end a sentence. -/
def isTerminator (c : Char) : Bool := c == '.' || c == '!' || c == '?'

/-- What may close behind the end of a sentence. -/
def isCloser (c : Char) : Bool := c == '"' || c == '\'' || c == ')' || c == ']'

/-- A place where a sentence may end: how many characters belong to it, and whether it does end
the sentence. -/
structure Boundary where
  length : Nat
  ends : Bool
  deriving Repr, DecidableEq

/-- Marks, closing characters and all blanks behind them. -/
def markBoundary? (cs : List Char) : Option Boundary :=
  let marks := cs.span isTerminator
  let closers := marks.2.span isCloser
  let blanks := closers.2.span isSpace
  if marks.1.isEmpty || blanks.1.isEmpty then none
  else
    some ⟨marks.1.length + closers.1.length + blanks.1.length, !blanks.2.head?.any isLower⟩

/-- A line end, blanks, and the next line end. -/
def blankLine? : List Char → Option Boundary
  | '\n' :: rest =>
      let blanks := rest.span fun c => c == ' ' || c == '\t'
      match blanks.2 with
      | '\n' :: _ => some ⟨blanks.1.length + 2, true⟩
      | '\r' :: '\n' :: _ => some ⟨blanks.1.length + 3, true⟩
      | _ => none
  | _ => none

/-- The boundary that a text starts with. -/
def boundary? (cs : List Char) : Option Boundary :=
  match markBoundary? cs with
  | some b => some b
  | none => blankLine? cs

/-- The beginning of a text up to the end of its first sentence, if one ends in it.  The next
`skip` characters belong to a boundary that ends nothing. -/
def untilEnd? (skip : Nat) : List Char → Option (List Char)
  | [] => none
  | c :: rest =>
      match skip with
      | skip + 1 => (untilEnd? skip rest).map (c :: ·)
      | 0 =>
          match boundary? (c :: rest) with
          | none => (untilEnd? 0 rest).map (c :: ·)
          | some b =>
              if b.ends then some ((c :: rest).take b.length)
              else (untilEnd? (b.length - 1) rest).map (c :: ·)

/-- The first sentence of a text without the blanks around it, or the whole text if no sentence
ends in it.  A blank text is its own first sentence. -/
def firstSentence (s : String) : String :=
  if isBlank s then s
  else trim (String.ofList ((untilEnd? 0 s.toList).getD s.toList))

end ComponentGen.Naming

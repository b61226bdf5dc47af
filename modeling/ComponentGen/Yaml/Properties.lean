import ComponentGen.Yaml.Cursor
import ComponentGen.Number.Numeral

/-!
# Anchors and tags

The properties that may stand in front of a YAML node: an anchor, by which aliases repeat the
node, and a tag, which is resolved through the tag handles of the document.
-/

namespace ComponentGen.Yaml

open Number

/-- The properties of a node. -/
structure Properties where
  anchor : Option String := none
  tag : Option String := none
  deriving Repr, DecidableEq

namespace Properties

/-- Whether there are no properties. -/
def isEmpty (p : Properties) : Bool := p.anchor.isNone && p.tag.isNone

/-- The first of two values, of which only one may be given. -/
def either? (a b : Option String) : Option (Option String) :=
  match a, b with
  | some _, some _ => none
  | some x, none => some (some x)
  | none, y => some y

/-- Joins properties that stand in different places in front of one node. -/
def merge? (p q : Properties) : Option Properties :=
  match either? p.anchor q.anchor, either? p.tag q.tag with
  | some anchor, some tag => some { anchor, tag }
  | _, _ => none

end Properties

/-- Whether an anchor name may end in front of the given text. -/
def endsName : List Char → Bool
  | [] => true
  | c :: rest => startsBlank (c :: rest) || ['?', ':', ',', ']', '\x7d', '%', '@', '\x60'].contains c

/-- The name behind `&` or `*`. -/
def readName? (c : Cursor) : Option (String × Cursor) :=
  let body := c.skip 1
  let (name, rest) := body.rest.span isWordChar
  if name.isEmpty || !endsName rest then none
  else some (String.ofList name, body.skip name.length)

/-- The characters of tags, apart from escapes. -/
def isTagChar (verbatim : Bool) (c : Char) : Bool :=
  isWordChar c || [';', '/', '?', ':', '@', '&', '=', '+', '$', '.', '!', '~', '*', '\'', '(',
    ')'].contains c || (verbatim && [',', '[', ']'].contains c)

/-- The bytes of percent escapes at the start of a text, and how many there are. -/
def takeEscapes : List Char → List UInt8 × List Char
  | '%' :: a :: b :: rest =>
      match natOfDigits? 16 [a, b] with
      | some n =>
          let tail := takeEscapes rest
          (n.toUInt8 :: tail.1, tail.2)
      | none => ([], '%' :: a :: b :: rest)
  | cs => ([], cs)

/-- The characters of a tag from the front of a text.  Escaped bytes have to form characters. -/
def readTagChars? (verbatim : Bool) : Nat → List Char → Option (List Char × List Char)
  | 0, _ => none
  | fuel + 1, cs =>
      match cs with
      | '%' :: _ =>
          let (bytes, rest) := takeEscapes cs
          if bytes.isEmpty then none
          else match String.fromUTF8? (ByteArray.mk bytes.toArray) with
            | some s => (readTagChars? verbatim fuel rest).map fun tail =>
                (s.toList ++ tail.1, tail.2)
            | none => none
      | c :: rest =>
          if isTagChar verbatim c then
            (readTagChars? verbatim fuel rest).map fun tail => (c :: tail.1, tail.2)
          else some ([], cs)
      | [] => some ([], [])

/-- The parts of a tag: its handle and what stands behind it. -/
def readTagParts? (cs : List Char) : Option (List Char × List Char × List Char) :=
  match cs with
  | '!' :: '<' :: rest => do
      let (uri, rest) ← readTagChars? true (rest.length + 1) rest
      match uri, rest with
      | _ :: _, '>' :: rest => some ([], uri, rest)
      | _, _ => none
  | '!' :: rest =>
      let (word, more) := rest.span isWordChar
      match more with
      | '!' :: more => do
          let (suffix, rest) ← readTagChars? false (more.length + 1) more
          if suffix.isEmpty then none else some ('!' :: word ++ ['!'], suffix, rest)
      | _ => do
          let (suffix, rest) ← readTagChars? false (rest.length + 1) rest
          if suffix.isEmpty then some ([], ['!'], rest) else some (['!'], suffix, rest)
  | _ => none

/-- The handles that need no declaration. -/
def standardHandles : List (String × String) := [("!", "!"), ("!!", coreTag "")]

/-- A tag at the cursor, resolved.  The lone mark `!` resolves to nothing: it only says that the
node has no tag. -/
def readTag? (flow : Bool) (c : Cursor) : Option (Option String × Cursor) := do
  let (handle, suffix, rest) ← readTagParts? c.rest
  if startsBlank rest || (flow && rest.head? == some ',') then
    let after := c.skip (c.rest.length - rest.length)
    if handle.isEmpty then
      return (if suffix = ['!'] then none else some (String.ofList suffix), after)
    else
      let start ← (c.handles ++ standardHandles).lookup (String.ofList handle)
      return (some (start ++ String.ofList suffix), after)
  else none

/-- The properties from the cursor to the end of its line, and the cursor at the token behind
them.  Each kind of property may stand there once. -/
def readProperties? (flow : Bool) : Nat → Cursor → Option (Properties × Cursor)
  | 0, _ => none
  | fuel + 1, c =>
      match c.rest with
      | '&' :: _ => do
          let (name, after) ← readName? c
          let next := { after with keyAllowed := false }.toToken flow
          let (more, last) ←
            if next.line == c.line then readProperties? flow fuel next else some ({}, next)
          let merged ← Properties.merge? { anchor := some name } more
          return (merged, last)
      | '!' :: _ => do
          let (tag, after) ← readTag? flow c
          let next := { after with keyAllowed := false }.toToken flow
          let (more, last) ←
            if next.line == c.line then readProperties? flow fuel next else some ({}, next)
          let merged ← Properties.merge? { tag := some (tag.getD "!") } more
          return (merged, last)
      | _ => some ({}, c)

/-- The properties in front of a node; three steps are enough, because no more than two
properties may be given. -/
def Cursor.properties? (flow : Bool) (c : Cursor) : Option (Properties × Cursor) :=
  readProperties? flow 3 c

/-- Remembers a node under its anchor. -/
def Cursor.remember (c : Cursor) (p : Properties) (node : Option Node) : Cursor :=
  match p.anchor with
  | some name => { c with anchors := (name, node) :: c.anchors }
  | none => c

end ComponentGen.Yaml

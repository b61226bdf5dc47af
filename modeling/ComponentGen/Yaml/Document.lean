import ComponentGen.Yaml.Reader

/-!
# YAML documents

A YAML text holds one document: optional directives, an optional mark in front of the root node
and any number of end marks behind it.  A text without any node is a document whose value is
omitted.
-/

namespace ComponentGen.Yaml

open Number

/-- The characters that a YAML text may consist of. -/
def isAllowed (c : Char) : Bool :=
  c == '\t' || c == '\n' || c == '\r' || (0x20 ≤ c.toNat && c.toNat ≤ 0x7E) || c == '\x85' ||
    (0xA0 ≤ c.toNat && c.toNat ≤ 0xFFFD) || 0x10000 ≤ c.toNat

/-- The directives of a document. -/
structure Directives where
  version : Bool := false
  handles : List (String × String) := []

/-- A version number of at most nine digits. -/
def readVersionPart? (cs : List Char) : Option (Nat × List Char) :=
  let (digits, rest) := cs.span Char.isDigit
  if digits.length ≤ 9 then (natOfDigits? 10 digits).map (·, rest) else none

/-- The version behind `%YAML`, which has to be 1.1 or 1.2. -/
def readVersion? (cs : List Char) : Option (List Char) := do
  let (major, rest) ← readVersionPart? cs
  match rest with
  | '.' :: rest => do
      let (minor, rest) ← readVersionPart? rest
      if major = 1 ∧ (minor = 1 ∨ minor = 2) then return rest else none
  | _ => none

/-- The handle and the prefix behind `%TAG`. -/
def readHandle? (cs : List Char) : Option ((String × String) × List Char) :=
  match cs with
  | '!' :: rest => do
      let (word, rest) := rest.span isWordChar
      let (handle, rest) ← match rest with
        | '!' :: rest => some ('!' :: word ++ ['!'], rest)
        | _ => if word.isEmpty then some (['!'], rest) else none
      if startsBlank rest then
        let body := rest.dropWhile isBlank
        let (uri, rest) ← readTagChars? true (body.length + 1) body
        if uri.isEmpty || !startsBlank rest then none
        else return ((String.ofList handle, String.ofList uri), rest)
      else none
  | _ => none

/-- The directives in front of a document, up to the mark that has to follow them. -/
def readDirectives? : Nat → Directives → Cursor → Option (Directives × Cursor)
  | 0, _, _ => none
  | fuel + 1, d, c =>
      if c.column == 0 && c.rest.head? == some '%' then do
        let (name, rest) := (c.rest.drop 1).span isWordChar
        let body := rest.dropWhile isBlank
        let (d, rest) ←
          if name = "YAML".toList && !d.version then
            (readVersion? body).map fun rest => ({ d with version := true }, rest)
          else if name = "TAG".toList then
            match readHandle? body with
            | some (handle, rest) =>
                if (d.handles.lookup handle.1).isSome then none
                else some ({ d with handles := handle :: d.handles }, rest)
            | none => none
          else none
        let (position, rest) ←
          finishLine? false (c.position.move (c.rest.length - rest.length)) rest
        readDirectives? fuel d ({ c with position, rest }.toToken false)
      else if c.column == 0 && startsMark c.rest && c.rest.head? == some '-' then some (d, c)
      else none

/-- Whether nothing but end marks follows a document. -/
def endsDocument : Nat → Cursor → Bool
  | 0, _ => false
  | fuel + 1, c =>
      c.rest.isEmpty ||
        (c.column == 0 && startsMark c.rest && c.rest.head? == some '.' &&
          endsDocument fuel (({ c.skip 3 with keyAllowed := false }).toToken false))

/-- The root node from the first token on. -/
def readRoot? (c : Cursor) : Option (Node × Cursor) :=
  let isDirective := c.column == 0 && c.rest.head? == some '%'
  if c.rest.isEmpty then some (emptyNode {}, c)
  else if isDirective || (c.column == 0 && startsMark c.rest && c.rest.head? == some '-') then do
    let (d, c) ← readDirectives? (c.rest.length + 1) {} c
    readNode (fuelFor c.rest) 0 .document {}
      ({ c.skip 3 with keyAllowed := false, handles := d.handles }.toToken false)
  else if c.atDocumentEnd then none
  else readNode (fuelFor c.rest) 0 .document {} c

/-- Reads a YAML text that holds at most one document. -/
def read? (s : String) : Option Node :=
  let cs := match s.toList with
    | '\uFEFF' :: rest => rest
    | cs => cs
  if cs.all isAllowed then
    match readRoot? (Cursor.toToken false { rest := cs }) with
    | some (node, c) => if endsDocument (c.rest.length + 1) c then some node else none
    | none => none
  else none

end ComponentGen.Yaml

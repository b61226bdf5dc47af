import ComponentGen.Yaml.BlockScalar
import ComponentGen.Yaml.Properties

/-!
# Reading YAML

YAML text becomes a document node.  Collections are written in brackets or by indentation.
The reader of indented collections is told the least column, `floor`, that the text of a node
must keep to; a token in front of it ends the node.  A text that stands where a key may stand is
a key when a colon follows on its line, and then opens a map at its column.

An alias becomes a copy of the node it refers to.  All failures are alike: there is no document.
-/

namespace ComponentGen.Yaml

/-- A scalar node with its properties; the tag `!` stands for no tag. -/
def scalarNode (content : List Char) (style : ScalarStyle) (p : Properties) : Node :=
  .scalar (.written (String.ofList content) style (p.tag.filter (· != "!")))

/-- The node of a place where nothing is written. -/
def emptyNode (p : Properties) : Node := scalarNode [] .plain p

/-- Whether a plain scalar may start at the given text. -/
def startsPlain (flow : Bool) : List Char → Bool
  | [] => false
  | c :: rest =>
      if isBlank c || isBreak c then false
      else if c == '-' then !startsBlank rest
      else if c == '?' || c == ':' then !flow && !startsBlank rest
      else !([',', '[', ']', '\x7b', '\x7d', '#', '&', '*', '!', '|', '>', '\'', '"', '%', '@',
        '\x60'].contains c)

/-- A plain or quoted scalar at the cursor. -/
def readFlowScalar? (flow : Bool) (floor : Nat) (c : Cursor) :
    Option (List Char × ScalarStyle × Cursor) :=
  match c.rest with
  | '\'' :: rest =>
      (readSingleQuoted {} (c.position.move 1) rest).map fun (content, position, rest) =>
        (content, .quoted, { c with rest, position, keyAllowed := false })
  | '"' :: rest =>
      (readDoubleQuoted {} (c.position.move 1) rest).map fun (content, position, rest) =>
        (content, .quoted, { c with rest, position, keyAllowed := false })
  | _ =>
      if startsPlain flow c.rest then
        (readPlain flow floor {} c.position c.rest).map fun (content, broken, position, rest) =>
          (content, .plain, { c with rest, position, keyAllowed := broken })
      else none

/-- A literal or folded scalar at the cursor. -/
def readIndented? (floor : Nat) (p : Properties) (c : Cursor) : Option (Node × Cursor) :=
  match c.rest with
  | indicator :: rest =>
      let folding := indicator == '>'
      (readBlockScalar folding floor (c.position.move 1) rest).map
        fun (content, position, rest) =>
          let node := scalarNode content (if folding then .folded else .literal) p
          (node, { c with rest, position, keyAllowed := true }.remember p (some node))
  | [] => none

/-- Whether a literal or folded scalar starts at the given text. -/
def startsIndented : List Char → Bool
  | c :: _ => c == '|' || c == '>'
  | [] => false

/-- The node that an alias repeats. -/
def readAlias? (c : Cursor) : Option (Node × Cursor) := do
  let (name, after) ← readName? c
  let node ← (← c.anchors.lookup name)
  return (node, { after with keyAllowed := false })

/-- Where a node of an indented collection stands.  It decides what a token at the column of the
collection itself means. -/
inductive Slot where
  | document
  | item
  | looseItem
  | key
  | value
  deriving Repr, DecidableEq

/-- Whether a list may stand at the column of the map around it. -/
def Slot.takesLooseList : Slot → Bool
  | .key => true
  | .value => true
  | _ => false

/-- The cursor behind an indicator of one character, at the next token. -/
def Cursor.behind (c : Cursor) (flow keyAllowed : Bool) : Cursor :=
  { c.skip 1 with keyAllowed }.toToken flow

/-- Whether the given text starts with one of some characters. -/
def startsWithAny (cs : List Char) (indicators : List Char) : Bool :=
  match cs with
  | c :: _ => indicators.contains c
  | [] => false

/-- The number of calls that reading a text can take: every character opens at most a few. -/
def fuelFor (cs : List Char) : Nat := 8 * cs.length + 16

mutual

/-- A node inside brackets, with the cursor at the token behind it. -/
def readFlow (fuel floor : Nat) (c : Cursor) : Option (Node × Cursor) :=
  match fuel with
  | 0 => none
  | fuel + 1 => do
      let (p, c) ← c.properties? true
      if c.atDocumentEnd then none
      else if !p.isEmpty && startsWithAny c.rest [',', ']', '\x7d', ':'] then
        return (emptyNode p, c.remember p (some (emptyNode p)))
      else do
        let (node, c) ← readCompact fuel floor true p c
        return (node, c.toToken true)
termination_by structural fuel

/-- An alias, a plain or quoted scalar, or a collection in brackets, with the cursor right
behind it. -/
def readCompact (fuel floor : Nat) (flow : Bool) (p : Properties) (c : Cursor) :
    Option (Node × Cursor) :=
  match fuel with
  | 0 => none
  | fuel + 1 =>
      match c.rest with
      | '*' :: _ => if p.isEmpty then readAlias? c else none
      | '[' :: _ => do
          let (items, c) ← readFlowItems fuel floor ((c.remember p none).behind true true)
          let node := Node.list .yaml items
          return (node, c.remember p (some node))
      | '\x7b' :: _ => do
          let (entries, c) ← readFlowEntries fuel floor ((c.remember p none).behind true true)
          let node := Node.map .yaml entries
          return (node, c.remember p (some node))
      | _ => do
          let (content, style, c) ← readFlowScalar? flow floor c
          let node := scalarNode content style p
          return (node, c.remember p (some node))
termination_by structural fuel

/-- The items of a list in brackets, with the cursor right behind the closing one. -/
def readFlowItems (fuel floor : Nat) (c : Cursor) : Option (List Node × Cursor) :=
  match fuel with
  | 0 => none
  | fuel + 1 =>
      if c.rest.head? = some ']' then some ([], { c.skip 1 with keyAllowed := false })
      else do
        let (item, c) ← readFlowItem fuel floor c
        match c.rest with
        | ',' :: _ => do
            let (items, c) ← readFlowItems fuel floor (c.behind true true)
            return (item :: items, c)
        | ']' :: _ => return ([item], { c.skip 1 with keyAllowed := false })
        | _ => none
termination_by structural fuel

/-- An item of a list in brackets, which may be a single pair of a key and a value. -/
def readFlowItem (fuel floor : Nat) (c : Cursor) : Option (Node × Cursor) :=
  match fuel with
  | 0 => none
  | fuel + 1 =>
      if c.rest.head? = some '?' then do
        let (entry, c) ← readFlowEntry fuel floor c
        return (.map .yaml [entry], c)
      else do
        let (key, after) ← readFlow fuel floor c
        if after.rest.head? ≠ some ':' then return (key, after)
        else if c.endsKey after then do
          let (value, c) ← readFlowValue fuel floor after
          return (.map .yaml [(key, value)], c)
        else none
termination_by structural fuel

/-- The entries of a map in brackets, with the cursor right behind the closing one. -/
def readFlowEntries (fuel floor : Nat) (c : Cursor) : Option (List (Node × Node) × Cursor) :=
  match fuel with
  | 0 => none
  | fuel + 1 =>
      if c.rest.head? = some '\x7d' then some ([], { c.skip 1 with keyAllowed := false })
      else do
        let (entry, c) ← readFlowEntry fuel floor c
        match c.rest with
        | ',' :: _ => do
            let (entries, c) ← readFlowEntries fuel floor (c.behind true true)
            return (entry :: entries, c)
        | '\x7d' :: _ => return ([entry], { c.skip 1 with keyAllowed := false })
        | _ => none
termination_by structural fuel

/-- A key with its value inside brackets; either may be missing. -/
def readFlowEntry (fuel floor : Nat) (c : Cursor) : Option ((Node × Node) × Cursor) :=
  match fuel with
  | 0 => none
  | fuel + 1 =>
      if c.rest.head? = some '?' then do
        let inside := c.behind true false
        let (key, after) ←
          if startsWithAny inside.rest [':', ',', ']', '\x7d'] then
            some (emptyNode {}, inside)
          else readFlow fuel floor inside
        if after.rest.head? = some ':' then do
          let (value, c) ← readFlowValue fuel floor after
          return ((key, value), c)
        else return ((key, emptyNode {}), after)
      else do
        let (key, after) ← readFlow fuel floor c
        if after.rest.head? ≠ some ':' then return ((key, emptyNode {}), after)
        else if c.endsKey after then do
          let (value, c) ← readFlowValue fuel floor after
          return ((key, value), c)
        else none
termination_by structural fuel

/-- The value behind a colon inside brackets. -/
def readFlowValue (fuel floor : Nat) (c : Cursor) : Option (Node × Cursor) :=
  match fuel with
  | 0 => none
  | fuel + 1 =>
      let inside := c.behind true false
      if startsWithAny inside.rest [',', ']', '\x7d'] then some (emptyNode {}, inside)
      else readFlow fuel floor inside
termination_by structural fuel

end

/-- What stands behind the properties of a key: compact content or nothing.  The cursor ends at
the next token. -/
def readKey (floor : Nat) (p : Properties) (c : Cursor) : Option (Node × Cursor) :=
  if !p.isEmpty && (c.rest.isEmpty || startsIndicator ':' c.rest) then
    some (emptyNode p, c.remember p (some (emptyNode p)))
  else
    (readCompact (fuelFor c.rest) floor false p c).map fun (node, c) => (node, c.toToken false)

mutual

/-- A node of an indented collection, with the cursor at the token behind it.  `outer` are
properties that stand on earlier lines. -/
def readNode (fuel floor : Nat) (slot : Slot) (outer : Properties) (c : Cursor) :
    Option (Node × Cursor) :=
  match fuel with
  | 0 => none
  | fuel + 1 =>
      let empty := some (emptyNode outer, c.remember outer (some (emptyNode outer)))
      if c.atDocumentEnd || c.column + 1 < floor then empty
      else if startsIndented c.rest then
        (readIndented? floor outer c).map fun (node, c) => (node, c.toToken false)
      else if startsIndicator '-' c.rest then
        if c.column + 1 = floor then
          if slot.takesLooseList then readListNode fuel true outer c else empty
        else if c.keyAllowed then readListNode fuel false outer c
        else none
      else if c.column + 1 = floor then empty
      else if startsIndicator ':' c.rest then none
      else if startsIndicator '?' c.rest then
        if c.keyAllowed then do
          let (entries, after) ← readEntries fuel c.column (c.remember outer none)
          let node := Node.map .yaml entries
          return (node, after.remember outer (some node))
        else none
      else readContent fuel floor slot outer c
termination_by structural fuel

/-- An indented list at the cursor under the properties of earlier lines. -/
def readListNode (fuel : Nat) (loose : Bool) (outer : Properties) (c : Cursor) :
    Option (Node × Cursor) :=
  match fuel with
  | 0 => none
  | fuel + 1 => do
      let (items, after) ← readItems fuel loose c.column (c.remember outer none)
      let node := Node.list .yaml items
      return (node, after.remember outer (some node))
termination_by structural fuel

/-- A node that starts with properties or with its content: the content itself, or a map whose
first key it is. -/
def readContent (fuel floor : Nat) (slot : Slot) (outer : Properties) (start : Cursor) :
    Option (Node × Cursor) :=
  match fuel with
  | 0 => none
  | fuel + 1 => do
      let (p, c) ← start.properties? false
      if !p.isEmpty && start.line != c.line then
        readNode fuel floor slot (← Properties.merge? outer p) c
      else if startsIndented c.rest then do
        let (node, c) ← readIndented? floor (← Properties.merge? outer p) c
        return (node, c.toToken false)
      else
        let (key, after) ← readKey floor p c
        if startsIndicator ':' after.rest && start.line == after.line then
          if start.endsKey after then do
            let (value, rest) ←
              readNode fuel (start.column + 1) .value {}
                ((after.remember outer none).behind false false)
            let (entries, rest) ← readEntries fuel start.column rest
            let node := Node.map .yaml ((key, value) :: entries)
            return (node, rest.remember outer (some node))
          else none
        else if outer.isEmpty then return (key, after)
        else readKey floor (← Properties.merge? outer p) c
termination_by structural fuel

/-- The items of an indented list at the given column.  A `loose` list stands at the column of
the map around it and ends where its items do. -/
def readItems (fuel : Nat) (loose : Bool) (column : Nat) (c : Cursor) :
    Option (List Node × Cursor) :=
  match fuel with
  | 0 => none
  | fuel + 1 =>
      if c.atDocumentEnd || c.column < column then some ([], c)
      else if c.column = column && startsIndicator '-' c.rest then do
        let slot := if loose then Slot.looseItem else Slot.item
        let (item, c) ← readNode fuel (column + 1) slot {} (c.behind false true)
        let (items, c) ← readItems fuel loose column c
        return (item :: items, c)
      else if loose then some ([], c)
      else none
termination_by structural fuel

/-- The entries of an indented map at the given column. -/
def readEntries (fuel column : Nat) (c : Cursor) : Option (List (Node × Node) × Cursor) :=
  match fuel with
  | 0 => none
  | fuel + 1 =>
      if c.atDocumentEnd || c.column < column then some ([], c)
      else if c.column ≠ column then none
      else do
        let (entry, c) ← readEntry fuel column c
        let (entries, c) ← readEntries fuel column c
        return (entry :: entries, c)
termination_by structural fuel

/-- One entry of an indented map, with the cursor at the token behind it. -/
def readEntry (fuel column : Nat) (c : Cursor) : Option ((Node × Node) × Cursor) :=
  match fuel with
  | 0 => none
  | fuel + 1 =>
      if startsIndicator '?' c.rest then
        if c.keyAllowed then do
          let (key, c) ← readNode fuel (column + 1) .key {} (c.behind false true)
          if !c.atDocumentEnd && c.column = column && startsIndicator ':' c.rest then do
            let (value, c) ← readNode fuel (column + 1) .value {} (c.behind false true)
            return ((key, value), c)
          else return ((key, emptyNode {}), c)
        else none
      else do
        let (p, inside) ← c.properties? false
        let (key, after) ← readKey (column + 1) p inside
        if startsIndicator ':' after.rest && c.endsKey after then do
          let (value, c) ← readNode fuel (column + 1) .value {} (after.behind false false)
          return ((key, value), c)
        else none
termination_by structural fuel

end

end ComponentGen.Yaml

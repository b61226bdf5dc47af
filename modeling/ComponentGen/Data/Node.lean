import ComponentGen.Yaml.CoreSchema

/-!
# Nodes of a data document

What a JSON or YAML document consists of before anyone asks what it means: scalars, lists and
maps.  A scalar can be read in several ways, depending on what is wanted at its place: in YAML
`1.10` is a text where a text is wanted and a number elsewhere, while a JSON number is never a
text.  The functions here are those readings; decoders are written with them and so need not
know which of the two formats a document is in.
-/

namespace ComponentGen

open Number

/-- The document formats that nodes come from. -/
inductive DataFormat where
  | json
  | yaml
  deriving Repr, DecidableEq

/-- How many lists and maps may be nested in each other. -/
def DataFormat.depthLimit : DataFormat → Nat
  | .json => 127
  | .yaml => 128

/-- How a YAML scalar is written. -/
inductive ScalarStyle where
  | plain
  | quoted
  | literal
  | folded
  deriving Repr, DecidableEq

/-- A scalar.  JSON scalars carry their own type.  A YAML scalar is the text it is `written`
with, its style and its resolved tag.  An `unreadable` JSON scalar is well formed but has no
value, such as a number beyond the range of doubles; it can only be passed over. -/
inductive Scalar where
  | null
  | bool (b : Bool)
  | int (n : Int)
  | float (x : Binary64)
  | text (s : String)
  | unreadable
  | written (source : String) (style : ScalarStyle) (tag : Option String)
  deriving Repr, DecidableEq

/-- The resolved form of a tag of the core schema. -/
def coreTag (name : String) : String := "tag:yaml.org,2002:" ++ name

namespace Scalar

/-- The text that the scalar stands for where a text is wanted. -/
def text? : Scalar → Option String
  | .text s => some s
  | .written source _ _ => some source
  | _ => none

/-- Whether a written scalar is read by its spelling where a value of the tagged type is
wanted: plain ones are, and literal ones when they carry the tag. -/
def readsAs (name : String) (style : ScalarStyle) (tag : Option String) : Bool :=
  style == .plain || (style == .literal && tag == some (coreTag name))

/-- The boolean that the scalar stands for where one is wanted. -/
def bool? : Scalar → Option Bool
  | .bool b => some b
  | .written source style tag =>
      if readsAs "bool" style tag then Yaml.boolOfWord? source else none
  | _ => none

/-- The whole number that the scalar stands for where one is wanted. -/
def int? : Scalar → Option Int
  | .int n => some n
  | .written source style tag =>
      if readsAs "int" style tag then (Yaml.wholeNumber? source.toList).filter fitsInt64
      else none
  | _ => none

/-- The value of the scalar where anything may stand. -/
def value? : Scalar → Option Json
  | .null => some .null
  | .bool b => some (.bool b)
  | .int n => some (.int n)
  | .float x => some (.float x)
  | .text s => some (.text s)
  | .unreadable => none
  | .written source style none =>
      if style == .plain then Yaml.resolve source else some (.text source)
  | .written source _ (some tag) =>
      if tag = coreTag "bool" then (Yaml.boolOfWord? source).map .bool
      else if tag = coreTag "int" then
        ((Yaml.wholeNumber? source.toList).filter fitsWord64).map .int
      else if tag = coreTag "float" then (Yaml.floatingNumber? source).map .float
      else if tag = coreTag "null" then
        if Yaml.isNullWord source then some .null else none
      else if tag.toList.head? = some '!' then none
      else some (.text source)

/-- Whether the scalar says that an optional value is not given. -/
def isAbsent : Scalar → Bool
  | .null => true
  | .written source .plain none => source.isEmpty || Yaml.isNullWord source
  | .written source .plain (some tag) => tag == coreTag "null" && Yaml.isNullWord source
  | _ => false

/-- Whether nothing at all was written, which stands for an empty list or map. -/
def isOmitted : Scalar → Bool
  | .written source .plain _ => source.isEmpty
  | _ => false

end Scalar

/-- What surrounds a node: so many lists and maps of a text, which may not nest too deep, or those
of a value in memory, which may. -/
inductive Nesting where
  | inside (above : Nat)
  | unlimited
  deriving Repr, DecidableEq

instance (above : Nat) : OfNat Nesting above := ⟨.inside above⟩

/-- Surroundings inside of others. -/
instance : Add Nesting where
  add
    | .inside above, .inside more => .inside (above + more)
    | _, _ => .unlimited

/-- A node of a document. -/
inductive Node where
  | scalar (s : Scalar)
  | list (format : DataFormat) (items : List Node)
  | map (format : DataFormat) (entries : List (Node × Node))
  deriving Repr

instance : Inhabited Node := ⟨.scalar .null⟩

namespace Node

/-- The text of a scalar node. -/
def text? : Node → Option String
  | .scalar s => s.text?
  | _ => none

/-- The boolean of a scalar node. -/
def bool? : Node → Option Bool
  | .scalar s => s.bool?
  | _ => none

/-- The 32-bit whole number of a scalar node. -/
def int32? : Node → Option Int
  | .scalar s => s.int?.filter fitsInt32
  | _ => none

/-- The name of a choice between names, which is a text, a tag in front of nothing, or in JSON a
map from the name to null. -/
def choice? : Node → Option String
  | .scalar (.written source style (some tag)) =>
      if tag.toList.head? = some '!' then
        if source.isEmpty || (style == .plain && Yaml.isNullWord source) then
          some (String.ofList (tag.toList.drop 1))
        else none
      else some source
  | .scalar s => s.text?
  | .map .json [(key, .scalar .null)] => key.text?
  | _ => none

/-- The items of a list node; an omitted value is an empty list. -/
def items? : Node → Option (List Node)
  | .list _ items => some items
  | .scalar s => if s.isOmitted then some [] else none
  | .map .. => none

/-- The entries of a map node whose keys are texts; an omitted value is an empty map. -/
def entries? : Node → Option (List (String × Node))
  | .map _ entries => entries.mapM fun entry => entry.1.text?.map (·, entry.2)
  | .scalar s => if s.isOmitted then some [] else none
  | .list .. => none

/-- How deep lists and maps may be nested, counted from the node on, when the node lies inside
`above` of them. -/
def depthBelow (above : Nat) : Node → Nat
  | .scalar _ => 0
  | .list format _ => format.depthLimit - above
  | .map format _ => format.depthLimit - above

mutual

/-- The value of a node where anything may stand, if it has one and does not nest deeper than
`depth`. -/
def value? (depth : Nat) : Node → Option Json
  | .scalar s => s.value?
  | .list _ items =>
      match depth with
      | 0 => none
      | depth + 1 => (values? depth items).map .array
  | .map _ entries =>
      match depth with
      | 0 => none
      | depth + 1 => (fields? depth entries).map .object

/-- The values of all nodes of a list. -/
def values? (depth : Nat) : List Node → Option (List Json)
  | [] => some []
  | n :: rest =>
      match value? depth n, values? depth rest with
      | some v, some vs => some (v :: vs)
      | _, _ => none

/-- The values of all entries of a map, whose keys have to be texts by themselves. -/
def fields? (depth : Nat) : List (Node × Node) → Option (List (String × Json))
  | [] => some []
  | (k, n) :: rest =>
      match value? depth k, value? depth n, fields? depth rest with
      | some (.text key), some v, some fs => some ((key, v) :: fs)
      | _, _, _ => none

end

mutual

/-- How many lists and maps of a node are nested in each other. -/
def height : Node → Nat
  | .scalar _ => 0
  | .list _ items => listHeight items + 1
  | .map _ entries => entriesHeight entries + 1

/-- The greatest height of the nodes of a list. -/
def listHeight : List Node → Nat
  | [] => 0
  | n :: rest => max (height n) (listHeight rest)

/-- The greatest height of the keys and values of a map. -/
def entriesHeight : List (Node × Node) → Nat
  | [] => 0
  | (k, n) :: rest => max (max (height k) (height n)) (entriesHeight rest)

end

/-- The value of a node in its surroundings. -/
def valueInside? : Nesting → Node → Option Json
  | .inside above, n => n.value? (n.depthBelow above)
  | .unlimited, n => n.value? n.height

mutual

/-- The node of a JSON value. -/
def ofJson : Json → Node
  | .null => .scalar .null
  | .bool b => .scalar (.bool b)
  | .int n => .scalar (.int n)
  | .float x => .scalar (.float x)
  | .text s => .scalar (.text s)
  | .array items => .list .json (ofJsonList items)
  | .object fields => .map .json (ofJsonFields fields)

/-- The nodes of the items of a JSON array. -/
def ofJsonList : List Json → List Node
  | [] => []
  | v :: rest => ofJson v :: ofJsonList rest

/-- The entries of a JSON object. -/
def ofJsonFields : List (String × Json) → List (Node × Node)
  | [] => []
  | (k, v) :: rest => (.scalar (.text k), ofJson v) :: ofJsonFields rest

end

end Node

end ComponentGen

import ComponentGen.Data.Record
import Mathlib.Data.List.Forall2

/-!
# Nodes that show values

When a node of a document shows a value: a scalar where it reads as the value, a list item by
item, a map entry by entry.  The relation is the same for all formats, and one value has many
nodes, because a YAML scalar keeps the spelling and the style it was written with.  Where anything
may stand, a node is read as the value that it shows, and a record whose fields are written as an
object is read back from any node that shows the object.
-/

namespace ComponentGen

open Number

/-! ## Values that are given -/

/-- Words that no format reads as anything but themselves: a few letters that make no null, truth
value or number. -/
def IsWord (name : String) : Prop :=
  name ≠ "" ∧ name.toList.all Char.isAlpha = true ∧ name.length ≤ 64 ∧
    Yaml.isPlainText name = true

instance (name : String) : Decidable (IsWord name) :=
  inferInstanceAs (Decidable (_ ∧ _ ∧ _ ∧ _))

/-- Values that documents are written with: texts, truth values, whole numbers of 64 bits, and
lists and maps of such values.  `named` is what the keys of maps have to satisfy. -/
inductive Json.IsGiven (named : String → Prop) : Json → Prop
  | text (s : String) : IsGiven named (.text s)
  | bool (b : Bool) : IsGiven named (.bool b)
  | int {n : Int} (fits : fitsInt64 n = true) : IsGiven named (.int n)
  | array {items : List Json} (given : ∀ v ∈ items, IsGiven named v) :
      IsGiven named (.array items)
  | object {fields : List (String × Json)} (keys : ∀ f ∈ fields, named f.1)
      (given : ∀ f ∈ fields, IsGiven named f.2) : IsGiven named (.object fields)

mutual

/-- A node shows a value when it reads as the value, where such a value is wanted as well as where
anything may stand. -/
inductive Shows : Json → Node → Prop
  | text {s : String} {scalar : Scalar} (reads : scalar.text? = some s)
      (resolves : scalar.value? = some (.text s)) : Shows (.text s) (.scalar scalar)
  | bool {b : Bool} {scalar : Scalar} (reads : scalar.bool? = some b)
      (resolves : scalar.value? = some (.bool b)) : Shows (.bool b) (.scalar scalar)
  | int {n : Int} {scalar : Scalar} (reads : scalar.int? = some n)
      (resolves : scalar.value? = some (.int n)) : Shows (.int n) (.scalar scalar)
  | array {format : DataFormat} {items : List Json} {nodes : List Node}
      (shown : ShowsItems items nodes) : Shows (.array items) (.list format nodes)
  | object {format : DataFormat} {fields : List (String × Json)} {entries : List (Node × Node)}
      (shown : ShowsFields fields entries) : Shows (.object fields) (.map format entries)

/-- Nodes show the items of a list in order. -/
inductive ShowsItems : List Json → List Node → Prop
  | nil : ShowsItems [] []
  | cons {v : Json} {n : Node} {items : List Json} {nodes : List Node} (first : Shows v n)
      (others : ShowsItems items nodes) : ShowsItems (v :: items) (n :: nodes)

/-- Entries show the fields of an object in order. -/
inductive ShowsFields : List (String × Json) → List (Node × Node) → Prop
  | nil : ShowsFields [] []
  | cons {name : String} {v : Json} {key n : Node} {fields : List (String × Json)}
      {entries : List (Node × Node)} (named : Shows (.text name) key) (first : Shows v n)
      (others : ShowsFields fields entries) :
      ShowsFields ((name, v) :: fields) ((key, n) :: entries)

end

@[simp]
theorem coreTag_inj {name other : String} : coreTag name = coreTag other ↔ name = other :=
  String.append_right_inj _

/-- Only null says that a value is missing. -/
theorem Scalar.isAbsent_eq_false {scalar : Scalar} {v : Json} (resolves : scalar.value? = some v)
    (given : v ≠ .null) : scalar.isAbsent = false := by
  have noNull : scalar.value? ≠ some .null := by
    rw [resolves]
    simpa using given
  unfold Scalar.isAbsent
  split
  case h_1 => exact absurd rfl noNull
  case h_2 source =>
    rw [Bool.eq_false_iff]
    intro null
    exact noNull (if_pos null)
  case h_3 source tag =>
    rw [Bool.eq_false_iff]
    intro null
    obtain ⟨tagged, word⟩ := (Bool.and_eq_true _ _).mp null
    rw [beq_iff_eq.mp tagged] at noNull
    exact noNull (by simp [Scalar.value?, word])
  case h_4 => rfl

/-- A value that is shown is not missing. -/
theorem Shows.ifPresent {α : Type} {v : Json} {n : Node} {a : α} {read : Node → Option α}
    (shown : Shows v n) (reads : read n = some a) : Record.ifPresent read n = some (some a) := by
  cases shown with
  | text _ resolves => simp [Record.ifPresent, Scalar.isAbsent_eq_false resolves, reads]
  | bool _ resolves => simp [Record.ifPresent, Scalar.isAbsent_eq_false resolves, reads]
  | int _ resolves => simp [Record.ifPresent, Scalar.isAbsent_eq_false resolves, reads]
  | array _ => simp [Record.ifPresent, reads]
  | object _ => simp [Record.ifPresent, reads]

theorem Shows.text? {s : String} {n : Node} (shown : Shows (.text s) n) : n.text? = some s := by
  cases shown with
  | text reads _ => exact reads

theorem Shows.bool? {b : Bool} {n : Node} (shown : Shows (.bool b) n) : n.bool? = some b := by
  cases shown with
  | bool reads _ => exact reads

theorem Shows.int32? {k : Int} {n : Node} (fits : fitsInt32 k = true)
    (shown : Shows (.int k) n) : n.int32? = some k := by
  cases shown with
  | int reads _ => simp [Node.int32?, reads, fits]

/-- The items of a shown list are read one by one. -/
theorem ShowsItems.mapM {α : Type} {write : α → Json} {read : Node → Option α} {items : List α}
    {nodes : List Node} (shown : ShowsItems (items.map write) nodes)
    (reads : ∀ item ∈ items, ∀ n, Shows (write item) n → read n = some item) :
    nodes.mapM read = some items := by
  induction items generalizing nodes with
  | nil =>
      cases shown
      rfl
  | cons item rest ih =>
      cases shown with
      | cons first others =>
          have head := reads item (List.mem_cons_self ..) _ first
          have tail := ih others fun other member =>
            reads other (List.mem_cons_of_mem item member)
          simp [head, tail]

/-! ## Nodes where anything may stand -/

namespace Json

/-- Values whose lists and maps are nested at most so deep in each other. -/
inductive NestsWithin : Nat → Json → Prop
  | null {depth : Nat} : NestsWithin depth .null
  | bool {depth : Nat} (b : Bool) : NestsWithin depth (.bool b)
  | int {depth : Nat} (n : Int) : NestsWithin depth (.int n)
  | float {depth : Nat} (x : Binary64) : NestsWithin depth (.float x)
  | text {depth : Nat} (s : String) : NestsWithin depth (.text s)
  | array {depth : Nat} {items : List Json} (within : ∀ v ∈ items, NestsWithin depth v) :
      NestsWithin (depth + 1) (.array items)
  | object {depth : Nat} {fields : List (String × Json)}
      (within : ∀ f ∈ fields, NestsWithin depth f.2) : NestsWithin (depth + 1) (.object fields)

/-- The values of some fields nest at most so deep. -/
def FieldsNestWithin (depth : Nat) (fields : List (String × Json)) : Prop :=
  ∀ f ∈ fields, f.2.NestsWithin depth

section Nesting

variable {α : Type} {depth : Nat}

@[simp]
theorem nestsWithin_text (s : String) : NestsWithin depth (.text s) := .text s

@[simp]
theorem nestsWithin_bool (b : Bool) : NestsWithin depth (.bool b) := .bool b

@[simp]
theorem nestsWithin_int (n : Int) : NestsWithin depth (.int n) := .int n

@[simp]
theorem nestsWithin_array_iff {items : List Json} :
    NestsWithin (depth + 1) (.array items) ↔ ∀ v ∈ items, v.NestsWithin depth :=
  ⟨fun | .array within => within, .array⟩

@[simp]
theorem nestsWithin_object_iff {fields : List (String × Json)} :
    NestsWithin (depth + 1) (.object fields) ↔ FieldsNestWithin depth fields :=
  ⟨fun | .object within => within, .object⟩

@[simp]
theorem fieldsNestWithin_nil : FieldsNestWithin depth [] :=
  fun _ member => nomatch member

@[simp]
theorem fieldsNestWithin_cons {f : String × Json} {rest : List (String × Json)} :
    FieldsNestWithin depth (f :: rest) ↔ f.2.NestsWithin depth ∧ FieldsNestWithin depth rest :=
  List.forall_mem_cons

@[simp]
theorem fieldsNestWithin_append {fields more : List (String × Json)} :
    FieldsNestWithin depth (fields ++ more) ↔
      FieldsNestWithin depth fields ∧ FieldsNestWithin depth more :=
  List.forall_mem_append

@[simp]
theorem fieldsNestWithin_optionalField {name : String} {value : Option α} {write : α → Json} :
    FieldsNestWithin depth (optionalField name value write) ↔
      ∀ a ∈ value, (write a).NestsWithin depth := by
  cases value <;> simp [optionalField]

@[simp]
theorem fieldsNestWithin_nonEmptyField {name : String} {items : List α} {write : α → Json} :
    FieldsNestWithin (depth + 1) (nonEmptyField name items write) ↔
      ∀ item ∈ items, (write item).NestsWithin depth := by
  cases items <;> simp [nonEmptyField]

end Nesting

end Json

theorem ShowsItems.values? {depth : Nat} {items : List Json} {nodes : List Node}
    (shown : ShowsItems items nodes)
    (reads : ∀ v ∈ items, ∀ {n}, Shows v n → n.value? depth = some v) :
    Node.values? depth nodes = some items := by
  induction items generalizing nodes with
  | nil =>
      cases shown
      rfl
  | cons v items ih =>
      cases shown with
      | cons first others =>
          have head := reads v (List.mem_cons_self ..) first
          have tail := ih others fun w member => reads w (List.mem_cons_of_mem v member)
          rw [Node.values?, head, tail]

theorem ShowsFields.fields? {depth : Nat} {fields : List (String × Json)}
    {entries : List (Node × Node)} (shown : ShowsFields fields entries)
    (reads : ∀ f ∈ fields, ∀ {n}, Shows f.2 n → n.value? depth = some f.2) :
    Node.fields? depth entries = some fields := by
  induction fields generalizing entries with
  | nil =>
      cases shown
      rfl
  | cons f fields ih =>
      obtain ⟨name, v⟩ := f
      cases shown with
      | cons named first others =>
          have head := reads _ (List.mem_cons_self ..) first
          have tail := ih others fun f member => reads f (List.mem_cons_of_mem _ member)
          cases named with
          | text _ resolves => rw [Node.fields?, Node.value?, resolves, head, tail]

/-- Where anything may stand, a node is read as the value that it shows, unless the value nests too
deep for the place. -/
theorem Shows.value? {depth : Nat} {v : Json} {n : Node} (shown : Shows v n)
    (within : v.NestsWithin depth) : n.value? depth = some v := by
  induction within generalizing n with
  | null => cases shown
  | float => cases shown
  | bool b =>
      cases shown with
      | bool _ resolves => rwa [Node.value?]
  | int k =>
      cases shown with
      | int _ resolves => rwa [Node.value?]
  | text s =>
      cases shown with
      | text _ resolves => rwa [Node.value?]
  | array _ ih =>
      cases shown with
      | array shown => rw [Node.value?, shown.values? ih, Option.map_some]
  | object _ ih =>
      cases shown with
      | object shown => rw [Node.value?, shown.fields? ih, Option.map_some]

/-! ## The fields of an object -/

namespace Json

variable {α : Type}

@[simp]
theorem lookup_optionalField (key name : String) (value : Option α) (write : α → Json) :
    (optionalField name value write).lookup key =
      if key = name then value.map write else none := by
  by_cases same : key = name
  · cases value <;> simp [optionalField, same]
  · cases value <;> simp [optionalField, same, List.lookup_cons, beq_eq_false_iff_ne.mpr same]

@[simp]
theorem lookup_nonEmptyField (key name : String) (items : List α) (write : α → Json) :
    (nonEmptyField name items write).lookup key =
      if key = name then if items.isEmpty then none else some (.array (items.map write))
      else none := by
  by_cases same : key = name
  · cases items <;> simp [nonEmptyField, same]
  · cases items <;> simp [nonEmptyField, same, List.lookup_cons, beq_eq_false_iff_ne.mpr same]

/-- The names of some fields are some of the given names, in their order. -/
def Keyed (fields : List (String × Json)) (names : List String) : Prop :=
  (fields.map Prod.fst).Sublist names

theorem Keyed.append {fields more : List (String × Json)} {names others : List String}
    (first : Keyed fields names) (second : Keyed more others) :
    Keyed (fields ++ more) (names ++ others) := by
  simpa only [Keyed, List.map_append] using List.Sublist.append first second

theorem keyed_self (fields : List (String × Json)) : Keyed fields (fields.map Prod.fst) :=
  List.Sublist.refl _

theorem keyed_optionalField (name : String) (value : Option α) (write : α → Json) :
    Keyed (optionalField name value write) [name] := by
  cases value <;> simp [Keyed, optionalField]

theorem keyed_nonEmptyField (name : String) (items : List α) (write : α → Json) :
    Keyed (nonEmptyField name items write) [name] := by
  cases items <;> simp [Keyed, nonEmptyField]

end Json

/-! ## The fields of a record -/

namespace Record

/-- The fields that a record was given show the fields of an object, name by name. -/
def Gives (fields : List (String × Json)) (given : RecordFields) : Prop :=
  ∀ name, Option.Rel Shows (fields.lookup name) (given.lookup name)

/-- A name is found among fields without other names. -/
theorem exists_find?_isNamedBy {names : List FieldName} {key : String}
    (plain : ∀ field ∈ names, field.aliases = []) (member : key ∈ names.map FieldName.name) :
    ∃ field, names.find? (·.isNamedBy key) = some field ∧ field.name = key := by
  obtain ⟨field, listed, rfl⟩ := List.mem_map.mp member
  obtain ⟨found, first⟩ := Option.isSome_iff_exists.mp <|
    List.find?_isSome (p := (·.isNamedBy field.name)).mpr
      ⟨field, listed, by simp [FieldName.isNamedBy]⟩
  refine ⟨found, first, ?_⟩
  have named := List.find?_some first
  rw [FieldName.isNamedBy, plain found (List.mem_of_find?_eq_some first)] at named
  simp only [List.contains_nil, Bool.or_false, beq_iff_eq] at named
  exact named.symm

/-- One entry after the other is taken in, whatever relates the fields of an object to the entries.
`before` are the fields read so far, none of which has the name of an entry to come. -/
theorem exists_foldlM_addEntry {related : Json → Node → Prop} {names : List FieldName}
    {fields : List (String × Json)} {entries : List (String × Node)} {before : RecordFields}
    (each : List.Forall₂ (fun f entry => f.1 = entry.1 ∧ related f.2 entry.2) fields entries)
    (known : ∀ f ∈ fields, ∃ field, names.find? (·.isNamedBy f.1) = some field ∧ field.name = f.1)
    (distinct : (fields.map Prod.fst).Nodup)
    (fresh : ∀ f ∈ fields, before.lookup f.1 = none) :
    ∃ given, entries.foldlM (addEntry names) before = some given ∧
      ∀ other,
        (before.lookup other = none →
          Option.Rel related (fields.lookup other) (given.lookup other)) ∧
        (fields.lookup other = none → given.lookup other = before.lookup other) := by
  induction fields generalizing entries before with
  | nil =>
      cases each
      exact ⟨before, rfl, fun other => ⟨fun absent => absent ▸ .none, fun _ => rfl⟩⟩
  | cons field rest ih =>
      obtain ⟨name, v⟩ := field
      obtain ⟨⟨_, n⟩, entries, ⟨rfl, first⟩, others, rfl⟩ := List.forall₂_cons_left_iff.mp each
      obtain ⟨unused, distinct⟩ := List.nodup_cons.mp distinct
      have apart : ∀ f ∈ rest, f.1 ≠ name := fun f member same =>
        unused (List.mem_map.mpr ⟨f, member, same⟩)
      have step : addEntry names before (name, n) = some ((name, n) :: before) := by
        obtain ⟨found, named, same⟩ := known _ (List.mem_cons_self ..)
        simp [addEntry, named, same, fresh _ (List.mem_cons_self ..)]
      obtain ⟨given, run, agrees⟩ :=
        @ih entries ((name, n) :: before) others
          (fun f member => known f (List.mem_cons_of_mem _ member)) distinct
          (fun f member => by
            rw [List.lookup_cons, beq_eq_false_iff_ne.mpr (apart f member)]
            exact fresh f (List.mem_cons_of_mem _ member))
      refine ⟨given, ?_, fun other => ?_⟩
      · simp [step, run]
      · by_cases same : other = name
        · -- The name does not come again, so the rest leaves what was just read.
          subst same
          have missing : rest.lookup other = none :=
            List.lookup_eq_none_iff.mpr fun f member => by simpa using (apart f member).symm
          have kept := (agrees other).2 missing
          simp only [List.lookup_cons_self] at kept
          simp only [List.lookup_cons_self, kept]
          exact ⟨fun _ => .some first, fun absurd => nomatch absurd⟩
        · have skipped := agrees other
          simp only [List.lookup_cons, beq_eq_false_iff_ne.mpr same] at skipped ⊢
          exact skipped

/-- The keys of entries that show the fields of an object are the names of the fields. -/
theorem exists_mapM_of_showsFields {fields : List (String × Json)} {entries : List (Node × Node)}
    (shown : ShowsFields fields entries) :
    ∃ named, entries.mapM (fun entry => entry.1.text?.map (·, entry.2)) = some named ∧
      List.Forall₂ (fun f entry => f.1 = entry.1 ∧ Shows f.2 entry.2) fields named := by
  induction fields generalizing entries with
  | nil =>
      cases shown
      exact ⟨[], rfl, .nil⟩
  | cons field rest ih =>
      cases shown with
      | @cons name v _ n _ entries key first others =>
          obtain ⟨named, texts, each⟩ := ih others
          exact ⟨(name, n) :: named, by simp [key.text?, texts], .cons ⟨rfl, first⟩ each⟩

/-- A record whose fields have no other names is read from every node that shows an object with
such fields. -/
theorem exists_fields?_of_shows {names : List FieldName} {fields : List (String × Json)}
    {n : Node} (shown : Shows (.object fields) n)
    (known : (fields.map Prod.fst).Sublist (names.map FieldName.name))
    (plain : ∀ field ∈ names, field.aliases = []) (distinct : (names.map FieldName.name).Nodup) :
    ∃ given, fields? names n = some given ∧ Gives fields given := by
  cases shown with
  | object shown =>
      obtain ⟨named, texts, each⟩ := exists_mapM_of_showsFields shown
      obtain ⟨given, run, agrees⟩ :=
        @exists_foldlM_addEntry Shows names fields named [] each
          (fun f member =>
            exists_find?_isNamedBy plain (known.subset (List.mem_map_of_mem member)))
          (known.nodup distinct) (fun _ _ => rfl)
      refine ⟨given, ?_, fun other => (agrees other).1 rfl⟩
      rw [fields?]
      · simp [Node.entries?, texts, run]
      · exact fun _ same => nomatch same

/-- A record is read part by part. -/
theorem bind_eq_some {α β : Type} {part : Option α} {others : α → Option β} {a : α} {b : β}
    (first : part = some a) (rest : others a = some b) : (part >>= others) = some b := by
  rw [first]
  exact rest

/-! ### Readers of fields

What stands under a name in the object is found by simplification, unless it is given. -/

section Fields

variable {α : Type} {fields : List (String × Json)} {given : RecordFields} {name : String}

theorem Gives.exists_shown {v : Json} (gives : Gives fields given)
    (written : fields.lookup name = some v) : ∃ n, given.lookup name = some n ∧ Shows v n := by
  have related := gives name
  rw [written] at related
  generalize given.lookup name = found at related
  cases related with
  | some shown => exact ⟨_, rfl, shown⟩

theorem Gives.lookup_eq_none (gives : Gives fields given) (unwritten : fields.lookup name = none) :
    given.lookup name = none := by
  have related := gives name
  rw [unwritten] at related
  generalize given.lookup name = found at related
  cases related
  rfl

theorem Gives.text {s : String} (gives : Gives fields given)
    (written : fields.lookup name = some (.text s) :=
      by simp [List.lookup_append, List.lookup_cons]) : text given name = some s := by
  obtain ⟨n, found, shown⟩ := gives.exists_shown written
  simp [Record.text, required, found, shown.text?]

/-- A field that is left out when it is not set is read as it was. -/
theorem Gives.optional {value : Option α} {write : α → Json} {read : Node → Option α}
    (gives : Gives fields given)
    (reads : ∀ v ∈ value, ∀ n, Shows (write v) n → read n = some v)
    (written : fields.lookup name = value.map write :=
      by simp [List.lookup_append, List.lookup_cons]) :
    optional given name read = some value := by
  cases value with
  | none => simp [Record.optional, withDefault, gives.lookup_eq_none written]
  | some v =>
      obtain ⟨n, found, shown⟩ := gives.exists_shown written
      simp [Record.optional, withDefault, found, shown.ifPresent (reads v rfl n shown)]

theorem Gives.text? {value : Option String} (gives : Gives fields given)
    (written : fields.lookup name = value.map .text :=
      by simp [List.lookup_append, List.lookup_cons]) : text? given name = some value :=
  gives.optional (fun _ _ _ shown => shown.text?) written

/-- A list that is left out when it is empty is read as it was. -/
theorem Gives.listOf {items : List α} {write : α → Json} {read : Node → Option α}
    (gives : Gives fields given)
    (reads : ∀ item ∈ items, ∀ n, Shows (write item) n → read n = some item)
    (written : fields.lookup name =
        if items.isEmpty then none else some (.array (items.map write)) :=
      by simp [List.lookup_append, List.lookup_cons]) :
    listOf given name read = some items := by
  cases items with
  | nil => simp [Record.listOf, withDefault, gives.lookup_eq_none written]
  | cons item rest =>
      obtain ⟨n, found, shown⟩ := gives.exists_shown written
      cases shown with
      | array shown => simp [Record.listOf, withDefault, found, Node.items?, shown.mapM reads]

end Fields

end Record

end ComponentGen

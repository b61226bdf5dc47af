import ComponentGen.Proofs.Data.Shown
import ComponentGen.Proofs.Outcome
import ComponentGen.Proofs.Text.Dictionary

/-!
# Values in memory

The value of a node that was made of a value is the value itself, however deep it nests, and a
record is read from the node of an object by the fields of the object.  The numbers of values in
memory are whole numbers of 64 bits and finite doubles.
-/

namespace ComponentGen

open Number Outcome

@[simp]
theorem Nesting.unlimited_add (more : Nesting) : unlimited + more = unlimited := by
  cases more <;> rfl

/-! ## Numbers in memory -/

namespace Json

/-- Values that can be kept in memory: a number is a whole number of 64 bits, with or without a
sign, or a finite double. -/
inductive IsKept : Json → Prop
  | null : IsKept .null
  | bool (b : Bool) : IsKept (.bool b)
  | int {n : Int} (fits : fitsWord64 n = true) : IsKept (.int n)
  | float {x : Binary64} (finite : x.isFinite = true) : IsKept (.float x)
  | text (s : String) : IsKept (.text s)
  | array {items : List Json} (kept : ∀ v ∈ items, IsKept v) : IsKept (.array items)
  | object {fields : List (String × Json)} (kept : ∀ f ∈ fields, IsKept f.2) :
      IsKept (.object fields)

@[simp]
theorem isKept_bool (b : Bool) : IsKept (.bool b) := .bool b

@[simp]
theorem isKept_text (s : String) : IsKept (.text s) := .text s

@[simp]
theorem isKept_int_iff {n : Int} : IsKept (.int n) ↔ fitsWord64 n = true :=
  ⟨fun | .int fits => fits, .int⟩

@[simp]
theorem isKept_float_iff {x : Binary64} : IsKept (.float x) ↔ x.isFinite = true :=
  ⟨fun | .float finite => finite, .float⟩

@[simp]
theorem isKept_array_iff {items : List Json} : IsKept (.array items) ↔ ∀ v ∈ items, v.IsKept :=
  ⟨fun | .array kept => kept, .array⟩

@[simp]
theorem isKept_object_iff {fields : List (String × Json)} :
    IsKept (.object fields) ↔ ∀ f ∈ fields, f.2.IsKept :=
  ⟨fun | .object kept => kept, .object⟩

theorem isKept_of_mem_optionalField {α : Type} {name : String} {value : Option α}
    {write : α → Json} (kept : ∀ a ∈ value, (write a).IsKept) :
    ∀ f ∈ optionalField name value write, f.2.IsKept := by
  cases value with
  | none => simp [optionalField]
  | some a => simpa [optionalField] using kept a rfl

theorem dataItems_eq_map (items : List Json) : dataItems items = items.map data := by
  induction items with
  | nil => rfl
  | cons v rest ih => rw [dataItems, ih, List.map_cons]

theorem dataFields_eq_map (fields : List (String × Json)) :
    dataFields fields = fields.map fun f => (f.1, f.2.data) := by
  induction fields with
  | nil => rfl
  | cons f rest ih => rw [dataFields, ih, List.map_cons]

/-- What can be kept in memory is kept as it is. -/
theorem IsKept.data_eq_self {v : Json} (kept : v.IsKept) : v.data = v := by
  induction kept with
  | null => rfl
  | bool b => rfl
  | int fits => rfl
  | float finite => simp [data, finite]
  | text s => rfl
  | array _ ih => rw [data, dataItems_eq_map, List.map_congr_left ih, List.map_id']
  | object _ ih =>
      rw [data, dataFields_eq_map,
        List.map_congr_left fun f member => congrArg (f.1, ·) (ih f member), List.map_id']

end Json

/-! ## Nodes of values -/

namespace Node

theorem ofJsonList_eq_map (items : List Json) : ofJsonList items = items.map ofJson := by
  induction items with
  | nil => rfl
  | cons v rest ih => rw [ofJsonList, ih, List.map_cons]

theorem ofJsonFields_eq_map (fields : List (String × Json)) :
    ofJsonFields fields = fields.map fun f => (.scalar (.text f.1), ofJson f.2) := by
  induction fields with
  | nil => rfl
  | cons f rest ih => rw [ofJsonFields, ih, List.map_cons]

mutual

/-- The node of a value has that value where so many lists and maps may nest as do. -/
theorem value?_ofJson (v : Json) {depth : Nat} (fits : (ofJson v).height ≤ depth) :
    (ofJson v).value? depth = some v := by
  cases v with
  | null => rfl
  | bool b => rfl
  | int n => rfl
  | float x => rfl
  | text s => rfl
  | array items =>
      cases depth with
      | zero => cases fits
      | succ depth =>
          have inside := values?_ofJsonList items (Nat.le_of_succ_le_succ fits)
          simp [ofJson, value?, inside]
  | object fields =>
      cases depth with
      | zero => cases fits
      | succ depth =>
          have inside := fields?_ofJsonFields fields (Nat.le_of_succ_le_succ fits)
          simp [ofJson, value?, inside]

theorem values?_ofJsonList (items : List Json) {depth : Nat}
    (fits : listHeight (ofJsonList items) ≤ depth) :
    values? depth (ofJsonList items) = some items := by
  cases items with
  | nil => rfl
  | cons v rest =>
      rw [ofJsonList, listHeight, Nat.max_le] at fits
      simp [ofJsonList, values?, value?_ofJson v fits.1, values?_ofJsonList rest fits.2]

theorem fields?_ofJsonFields (fields : List (String × Json)) {depth : Nat}
    (fits : entriesHeight (ofJsonFields fields) ≤ depth) :
    fields? depth (ofJsonFields fields) = some fields := by
  cases fields with
  | nil => rfl
  | cons f rest =>
      rcases f with ⟨name, v⟩
      rw [ofJsonFields, entriesHeight, Nat.max_le, Nat.max_le] at fits
      have key : (Node.scalar (.text name)).value? depth = some (.text name) := by
        simp [value?, Scalar.value?]
      simp [ofJsonFields, fields?, key, value?_ofJson v fits.1.2,
        fields?_ofJsonFields rest fits.2]

end

@[simp]
theorem valueInside?_ofJson (v : Json) : (ofJson v).valueInside? .unlimited = some v :=
  value?_ofJson v (Nat.le_refl _)

theorem items?_ofJson_array (items : List Json) :
    (ofJson (.array items)).items? = some (items.map ofJson) := by
  rw [ofJson, items?, ofJsonList_eq_map]

theorem entries?_ofJson_object (fields : List (String × Json)) :
    (ofJson (.object fields)).entries? = some (fields.map fun f => (f.1, ofJson f.2)) := by
  have key (name : String) : (scalar (.text name)).text? = some name := rfl
  rw [ofJson, entries?, ofJsonFields_eq_map, mapM_eq_some_iff, List.forall₂_map_left_iff,
    List.forall₂_map_right_iff, List.forall₂_same]
  simp [key]

end Node

/-- Nodes of values that can be kept in memory. -/
def Node.IsKept (n : Node) : Prop := ∃ v : Json, v.IsKept ∧ n = Node.ofJson v

namespace Node

theorem IsKept.items {n : Node} (kept : n.IsKept) {items : List Node}
    (found : n.items? = some items) : ∀ item ∈ items, item.IsKept := by
  rcases kept with ⟨v, kept, rfl⟩
  cases kept with
  | array kept =>
      rw [items?_ofJson_array, Option.some.injEq] at found
      subst found
      exact List.forall_mem_map.mpr fun v member => ⟨v, kept v member, rfl⟩
  | _ => cases found

theorem IsKept.entries {n : Node} (kept : n.IsKept) {entries : List (String × Node)}
    (found : n.entries? = some entries) : ∀ entry ∈ entries, entry.2.IsKept := by
  rcases kept with ⟨v, kept, rfl⟩
  cases kept with
  | object kept =>
      rw [entries?_ofJson_object, Option.some.injEq] at found
      subst found
      exact List.forall_mem_map.mpr fun f member => ⟨f.2, kept f member, rfl⟩
  | _ => cases found

end Node

/-! ## Records in memory -/

namespace Record

/-- The fields that a record was given are those of an object. -/
def Holds (fields : List (String × Json)) (given : RecordFields) : Prop :=
  ∀ name, given.lookup name = (fields.lookup name).map Node.ofJson

/-- A record is read from the node of an object whose fields are fields of the record, in their
order.  `own` says that no name of a field is another name of an earlier one. -/
theorem exists_fields?_ofJson {names : List FieldName} {fields : List (String × Json)} {v : Json}
    (written : v = .object fields) (keyed : Json.Keyed fields (names.map FieldName.name))
    (own : ∀ name ∈ names.map FieldName.name,
      (names.find? (·.isNamedBy name)).map FieldName.name = some name)
    (distinct : (names.map FieldName.name).Nodup) :
    ∃ given, fields? names (Node.ofJson v) = some given ∧ Holds fields given := by
  subst written
  have known : ∀ f ∈ fields,
      ∃ field, names.find? (·.isNamedBy f.1) = some field ∧ field.name = f.1 := fun f member =>
    Option.map_eq_some_iff.mp (own f.1 (keyed.subset (List.mem_map_of_mem member)))
  have each : List.Forall₂ (fun f entry => f.1 = entry.1 ∧ entry.2 = Node.ofJson f.2) fields
      (fields.map fun f => (f.1, Node.ofJson f.2)) :=
    List.forall₂_map_right_iff.mpr (List.forall₂_same.mpr fun f _ => ⟨rfl, rfl⟩)
  obtain ⟨given, run, agrees⟩ :=
    @exists_foldlM_addEntry (fun v n => n = Node.ofJson v) names fields _ [] each known
      (keyed.nodup distinct) fun _ _ => rfl
  refine ⟨given, ?_, fun name => ?_⟩
  · rw [fields?]
    · rw [Node.entries?_ofJson_object, Option.bind_some, run]
    · intro items same
      cases same
  · have related := (agrees name).1 rfl
    generalize fields.lookup name = written at related
    generalize given.lookup name = found at related
    cases related with
    | none => rfl
    | some same => rw [same, Option.map_some]

/-! ### Readers of fields

What stands under a name in the object is found by simplification, unless it is given. -/

section Fields

variable {α : Type} {fields : List (String × Json)} {given : RecordFields} {name : String}

theorem Holds.required {v : Json} {a : α} {read : Node → Option α} (holds : Holds fields given)
    (reads : read (Node.ofJson v) = some a)
    (written : fields.lookup name = some v :=
      by simp [List.lookup_append, List.lookup_cons]) : required given name read = some a := by
  rw [Record.required, holds name, written, Option.map_some, Option.bind_some, reads]

theorem Holds.withDefault {v : Json} {a default : α} {read : Node → Option α}
    (holds : Holds fields given) (reads : read (Node.ofJson v) = some a)
    (written : fields.lookup name = some v :=
      by simp [List.lookup_append, List.lookup_cons]) :
    withDefault given name default read = some a := by
  rw [Record.withDefault, holds name, written, Option.map_some]
  exact reads

theorem Holds.text {s : String} (holds : Holds fields given)
    (written : fields.lookup name = some (.text s) :=
      by simp [List.lookup_append, List.lookup_cons]) : text given name = some s :=
  holds.required rfl written

theorem Holds.flag {b : Bool} (holds : Holds fields given)
    (written : fields.lookup name = some (.bool b) :=
      by simp [List.lookup_append, List.lookup_cons]) : flag given name = some b :=
  holds.withDefault rfl written

/-- Of the values in memory, only null says that something is missing. -/
theorem ifPresent_ofJson (read : Node → Option α) {v : Json} (present : v ≠ .null) :
    ifPresent read (Node.ofJson v) = (read (Node.ofJson v)).map some := by
  cases v with
  | null => cases present rfl
  | _ => rfl

/-- A field that is left out when it is not set is read as it was. -/
theorem Holds.optional {value : Option α} {write : α → Json} {read : Node → Option α}
    (holds : Holds fields given)
    (reads : ∀ a ∈ value, read (Node.ofJson (write a)) = some a ∧ write a ≠ .null)
    (written : fields.lookup name = value.map write :=
      by simp [List.lookup_append, List.lookup_cons]) :
    optional given name read = some value := by
  cases value with
  | none => rw [Record.optional, Record.withDefault, holds name, written]; rfl
  | some a =>
      rcases reads a rfl with ⟨reads, present⟩
      refine holds.withDefault ?_ written
      rw [ifPresent_ofJson read present, reads, Option.map_some]

theorem Holds.text? {value : Option String} (holds : Holds fields given)
    (written : fields.lookup name = value.map .text :=
      by simp [List.lookup_append, List.lookup_cons]) : text? given name = some value :=
  holds.optional (fun _ _ => ⟨rfl, Json.noConfusion⟩) written

theorem Holds.listOf {items : List α} {write : α → Json} {read : Node → Option α}
    (holds : Holds fields given)
    (reads : ∀ item ∈ items, read (Node.ofJson (write item)) = some item)
    (written : fields.lookup name = some (.array (items.map write)) :=
      by simp [List.lookup_append, List.lookup_cons]) :
    listOf given name read = some items := by
  refine holds.withDefault ?_ written
  rw [Node.items?_ofJson_array, Option.bind_some, List.map_map, mapM_eq_some_iff,
    List.forall₂_map_left_iff, List.forall₂_same]
  exact reads

theorem Holds.texts {items : List String} (holds : Holds fields given)
    (written : fields.lookup name = some (.array (items.map .text)) :=
      by simp [List.lookup_append, List.lookup_cons]) :
    Record.listOf given name Node.text? = some items :=
  holds.listOf (fun _ _ => rfl) written

/-- A dictionary is read as it was, because its keys are in order. -/
theorem dictionary_ofJson {d : Dictionary α} {write : α → Json} {read : Node → Option α}
    (ordered : d.Ordered) (reads : ∀ entry ∈ d, read (Node.ofJson (write entry.2)) = some entry.2) :
    dictionary read (Node.ofJson (.object (d.map fun entry => (entry.1, write entry.2)))) =
      some d := by
  have each : (d.map fun entry => (entry.1, Node.ofJson (write entry.2))).mapM
      (fun entry => (read entry.2).map (entry.1, ·)) = some d := by
    rw [mapM_eq_some_iff, List.forall₂_map_left_iff, List.forall₂_same]
    intro entry member
    simp [reads entry member]
  rw [dictionary, Node.entries?_ofJson_object, Option.bind_some, List.map_map]
  simp only [Function.comp_def, each, Option.map_some, ordered.ofEntries_eq_self]

theorem Holds.dictionaryOf {d : Dictionary α} {write : α → Json} {read : Node → Option α}
    (holds : Holds fields given) (ordered : d.Ordered)
    (reads : ∀ entry ∈ d, read (Node.ofJson (write entry.2)) = some entry.2)
    (written : fields.lookup name =
        some (.object (d.map fun entry => (entry.1, write entry.2))) :=
      by simp [List.lookup_append, List.lookup_cons]) :
    dictionaryOf given name read = some d :=
  holds.withDefault (dictionary_ofJson ordered reads) written

end Fields

/-! ### What is read from values that can be kept -/

theorem addEntry_isKept {names : List FieldName} {before after : RecordFields}
    {entry : String × Node} (known : ∀ f ∈ before, f.2.IsKept) (kept : entry.2.IsKept)
    (step : addEntry names before entry = some after) : ∀ f ∈ after, f.2.IsKept := by
  rw [addEntry] at step
  split at step
  · cases step
    exact known
  · split at step
    · cases step
    · cases step
      exact List.forall_mem_cons.mpr ⟨kept, known⟩

theorem foldlM_addEntry_isKept {names : List FieldName} {entries : List (String × Node)}
    {before after : RecordFields} (known : ∀ f ∈ before, f.2.IsKept)
    (kept : ∀ entry ∈ entries, entry.2.IsKept)
    (run : entries.foldlM (addEntry names) before = some after) : ∀ f ∈ after, f.2.IsKept := by
  induction entries generalizing before with
  | nil =>
      cases run
      exact known
  | cons entry rest ih =>
      rw [List.forall_mem_cons] at kept
      rcases Option.bind_eq_some_iff.mp run with ⟨between, step, others⟩
      exact ih (addEntry_isKept known kept.1 step) kept.2 others

theorem fields?_isKept {names : List FieldName} {n : Node} {given : RecordFields}
    (kept : n.IsKept) (read : fields? names n = some given) : ∀ f ∈ given, f.2.IsKept := by
  rw [fields?.eq_def] at read
  split at read
  · rename_i items
    split at read
    · cases read
      intro f member
      exact kept.items rfl f.2 (List.of_mem_zip member).2
    · cases read
  · rcases Option.bind_eq_some_iff.mp read with ⟨entries, found, run⟩
    exact foldlM_addEntry_isKept (by simp) (kept.entries found) run

section Kept

variable {α : Type} {given : RecordFields} {name : String} {read : Node → Option α}

theorem isKept_of_lookup (kept : ∀ f ∈ given, f.2.IsKept) {n : Node}
    (found : given.lookup name = some n) : n.IsKept := by
  rcases List.lookup_eq_some_iff.mp found with ⟨before, after, rfl, _⟩
  exact kept (name, n) (by simp)

/-- The value of a field is its default or read from a value that can be kept. -/
theorem eq_default_or_exists (kept : ∀ f ∈ given, f.2.IsKept) {default a : α}
    (reads : withDefault given name default read = some a) :
    a = default ∨ ∃ n : Node, n.IsKept ∧ read n = some a := by
  rw [withDefault] at reads
  split at reads
  · cases reads
    exact .inl rfl
  · rename_i n found
    exact .inr ⟨n, isKept_of_lookup kept found, reads⟩

theorem exists_of_mem_listOf (kept : ∀ f ∈ given, f.2.IsKept) {items : List α}
    (reads : listOf given name read = some items) {item : α} (member : item ∈ items) :
    ∃ n : Node, n.IsKept ∧ read n = some item := by
  rcases eq_default_or_exists kept reads with rfl | ⟨list, keptList, readsList⟩
  · cases member
  · rcases Option.bind_eq_some_iff.mp readsList with ⟨nodes, found, run⟩
    rcases exists_eq_some_of_mem_mapM run member with ⟨n, inside, step⟩
    exact ⟨n, keptList.items found n inside, step⟩

theorem ordered_of_dictionary {n : Node} (kept : n.IsKept) {d : Dictionary α}
    (reads : dictionary read n = some d) :
    d.Ordered ∧ ∀ entry ∈ d, ∃ n : Node, n.IsKept ∧ read n = some entry.2 := by
  rcases Option.bind_eq_some_iff.mp reads with ⟨entries, found, collects⟩
  rcases Option.map_eq_some_iff.mp collects with ⟨collected, run, rfl⟩
  refine ⟨Dictionary.ordered_ofEntries collected, fun entry member => ?_⟩
  rcases exists_eq_some_of_mem_mapM run (Dictionary.mem_ofEntries member) with
    ⟨given, inside, named⟩
  rcases Option.map_eq_some_iff.mp named with ⟨value, step, rfl⟩
  exact ⟨given.2, kept.entries found given inside, step⟩

theorem ordered_of_dictionaryOf (kept : ∀ f ∈ given, f.2.IsKept) {d : Dictionary α}
    (reads : dictionaryOf given name read = some d) :
    d.Ordered ∧ ∀ entry ∈ d, ∃ n : Node, n.IsKept ∧ read n = some entry.2 := by
  rcases eq_default_or_exists kept reads with rfl | ⟨n, keptNode, readsNode⟩
  · exact ⟨.nil, by simp⟩
  · exact ordered_of_dictionary keptNode readsNode

end Kept

end Record

end ComponentGen

import ComponentGen.Proofs.Data.Memory
import ComponentGen.Source.Reading
import ComponentGen.Source.Writing

/-!
# Annotation values in memory

An annotation value is read back from the value that it is written as, with its own kind and with
everything nested in it.  Each annotation value that is read can be written and read again: its
whole numbers fit 64 bits, its floating-point numbers are finite and the names in it are in order.
-/

namespace ComponentGen

open Number

/-! ## Doubles near whole numbers -/

namespace Number.Binary64

theorem exponentFor_le {num : Nat} (small : num < Nat.pow 2 65) : exponentFor num 1 ≤ 13 := by
  have log : num.log2 ≤ 64 := by
    by_cases zero : num = 0
    · subst zero
      decide
    · exact Nat.le_of_lt_succ ((Nat.log2_lt zero).mpr small)
  have one : Nat.log2 1 = 0 := by decide
  simp only [exponentFor, smallestExponent, one, Int.ofNat_eq_natCast]
  split <;> omega

/-- A whole number of 64 bits, with or without a sign, is far from the largest doubles. -/
theorem isFinite_ofInt {n : Int} (fits : fitsWord64 n = true) : (ofInt n).isFinite = true := by
  have small : n.natAbs < Nat.pow 2 65 := by
    simp only [fitsWord64, Bool.and_eq_true, decide_eq_true_eq] at fits
    have power : Nat.pow 2 65 = 36893488147419103232 := by decide
    omega
  have exponent := exponentFor_le small
  rw [ofInt, ofRatio]
  split
  · rfl
  · dsimp only
    rw [if_neg]
    · rfl
    · rw [largestExponent]
      split <;> dsimp only <;> omega

end Number.Binary64

namespace Source

open Outcome

namespace AnnotationValue

/-- Annotation values as they are kept in memory: whole numbers fit 64 bits, floating-point numbers
are finite, and the names of nested values are in order. -/
inductive IsProper : AnnotationValue → Prop
  | bool (b : Bool) : IsProper (.bool b)
  | int {n : Int} (fits : fitsInt64 n = true) : IsProper (.int n)
  | float {x : Binary64} (finite : x.isFinite = true) : IsProper (.float x)
  | text (s : String) : IsProper (.text s)
  | list {items : List AnnotationValue} (proper : ∀ v ∈ items, IsProper v) :
      IsProper (.list items)
  | nested {values : AnnotationValues} (ordered : values.Ordered)
      (proper : ∀ entry ∈ values, IsProper entry.2) : IsProper (.nested values)

theorem toItems_eq_map (items : List AnnotationValue) : toItems items = items.map toJson := by
  induction items with
  | nil => rfl
  | cons v rest ih => rw [toItems, ih, List.map_cons]

theorem toFields_eq_map (values : List (String × AnnotationValue)) :
    toFields values = values.map fun entry => (entry.1, entry.2.toJson) := by
  induction values with
  | nil => rfl
  | cons entry rest ih => rw [toFields, ih, List.map_cons]

theorem ofItems?_eq_mapM (items : List Json) : ofItems? items = items.mapM ofJson? := by
  induction items with
  | nil => rfl
  | cons v rest ih =>
      rw [ofItems?, ih, List.mapM_cons]
      cases ofJson? v <;> cases rest.mapM ofJson? <;> rfl

theorem ofFields?_eq_mapM (fields : List (String × Json)) :
    ofFields? fields = fields.mapM fun f => (ofJson? f.2).map (f.1, ·) := by
  induction fields with
  | nil => rfl
  | cons f rest ih =>
      rw [ofFields?, ih, List.mapM_cons]
      cases ofJson? f.2 <;> cases rest.mapM fun f => (ofJson? f.2).map (f.1, ·) <;> rfl

/-- An annotation value is read back as it was, with the kind that it had. -/
theorem IsProper.ofJson?_toJson {a : AnnotationValue} (proper : a.IsProper) :
    ofJson? a.toJson = some a := by
  induction proper with
  | bool b => rfl
  | int fits => simp [toJson, ofJson?, fits]
  | float finite => rfl
  | text s => rfl
  | @list items _ ih =>
      have each : (items.map toJson).mapM ofJson? = some items := by
        rw [mapM_eq_some_iff, List.forall₂_map_left_iff, List.forall₂_same]
        exact ih
      rw [toJson, toItems_eq_map, ofJson?, ofItems?_eq_mapM, each, Option.map_some]
  | @nested values ordered _ ih =>
      have each : (values.map fun entry => (entry.1, entry.2.toJson)).mapM
          (fun f => (ofJson? f.2).map (f.1, ·)) = some values := by
        rw [mapM_eq_some_iff, List.forall₂_map_left_iff, List.forall₂_same]
        intro entry member
        rw [ih entry member, Option.map_some]
      rw [toJson, toFields_eq_map, ofJson?, ofFields?_eq_mapM, each, Option.map_some,
        ordered.ofEntries_eq_self]

theorem IsProper.isKept_toJson {a : AnnotationValue} (proper : a.IsProper) : a.toJson.IsKept := by
  induction proper with
  | bool b => exact .bool b
  | @int n fits =>
      refine .int ?_
      simp only [fitsInt64, fitsWord64, Bool.and_eq_true, decide_eq_true_eq] at fits ⊢
      omega
  | float finite => exact .float finite
  | text s => exact .text s
  | list _ ih =>
      rw [toJson, toItems_eq_map]
      exact .array (List.forall_mem_map.mpr ih)
  | nested _ _ ih =>
      rw [toJson, toFields_eq_map]
      exact .object (List.forall_mem_map.mpr ih)

/-- What is read from a value in memory is as annotation values are kept. -/
theorem isProper_of_ofJson? {v : Json} {a : AnnotationValue} (kept : v.IsKept)
    (read : ofJson? v = some a) : a.IsProper := by
  induction kept generalizing a with
  | null => cases read
  | bool b =>
      cases read
      exact .bool b
  | @int n fits =>
      cases read
      split
      · rename_i signed
        exact .int signed
      · exact .float (Binary64.isFinite_ofInt fits)
  | float finite =>
      cases read
      exact .float finite
  | text s =>
      cases read
      exact .text s
  | array _ ih =>
      rw [ofJson?, ofItems?_eq_mapM] at read
      rcases Option.map_eq_some_iff.mp read with ⟨items, each, rfl⟩
      refine .list fun value member => ?_
      rcases exists_eq_some_of_mem_mapM each member with ⟨v, inside, reads⟩
      exact ih v inside reads
  | object _ ih =>
      rw [ofJson?, ofFields?_eq_mapM] at read
      rcases Option.map_eq_some_iff.mp read with ⟨entries, each, rfl⟩
      refine .nested (Dictionary.ordered_ofEntries entries) fun entry member => ?_
      rcases exists_eq_some_of_mem_mapM each (Dictionary.mem_ofEntries member) with
        ⟨f, inside, named⟩
      rcases Option.map_eq_some_iff.mp named with ⟨value, reads, rfl⟩
      exact ih f inside reads

end AnnotationValue

/-! ## What a declaration says about itself -/

/-- What a declaration says about itself, with annotations as they are kept in memory: their names
and those of their values are in order, and so are the values themselves. -/
structure Metadata.IsProper (m : Metadata) : Prop where
  ordered : m.annotations.Ordered
  values : ∀ entry ∈ m.annotations,
    entry.2.Ordered ∧ ∀ value ∈ entry.2, value.2.IsProper

open Record

theorem valuesToJson_eq (values : AnnotationValues) :
    valuesToJson values = .object (values.map fun entry => (entry.1, entry.2.toJson)) := by
  rw [valuesToJson, AnnotationValue.toFields_eq_map]

theorem readValues?_ofJson {values : AnnotationValues} (ordered : values.Ordered)
    (proper : ∀ value ∈ values, value.2.IsProper) :
    readValues? .unlimited (Node.ofJson (valuesToJson values)) = some values := by
  rw [valuesToJson_eq]
  refine dictionary_ofJson ordered fun entry member => ?_
  simp [AnnotationValue.read?, (proper entry member).ofJson?_toJson]

theorem Tag.read?_ofJson (t : Tag) : Tag.read? (Node.ofJson t.toJson) = some t := by
  obtain ⟨given, read, holds⟩ := @exists_fields?_ofJson ["name", "value"] _ t.toJson rfl
    (Json.keyed_self _) (by decide) (by decide)
  have name : text given "name" = some t.name := holds.text
  have value : withDefault given "value" "" Node.text? = some t.value :=
    holds.withDefault (v := .text t.value) rfl
  rw [Tag.read?]
  apply bind_eq_some read
  apply bind_eq_some name
  apply bind_eq_some value
  rfl

@[simp]
theorem Metadata.lookup_toFields (m : Metadata) (key : String) :
    m.toFields.lookup key =
      if key = "doc_comment" then m.doc.map .text
      else if key = "tags" then some (.array (m.tags.map Tag.toJson))
      else if key = "annotations" then
        some (.object (m.annotations.map fun entry => (entry.1, valuesToJson entry.2)))
      else none := by
  by_cases doc : key = "doc_comment"
  · subst doc
    simp [Metadata.toFields, List.lookup_append, List.lookup_cons]
  · by_cases tags : key = "tags"
    · subst tags
      simp [Metadata.toFields, List.lookup_append]
    · by_cases annotations : key = "annotations"
      · subst annotations
        simp [Metadata.toFields, List.lookup_append, List.lookup_cons]
      · simp [Metadata.toFields, List.lookup_append, List.lookup_cons, doc, tags, annotations,
          beq_eq_false_iff_ne.mpr]

/-- What a declaration says about itself is read from the fields that it is written in. -/
theorem Metadata.ofFields?_of_holds {m : Metadata} (proper : m.IsProper)
    {fields : List (String × Json)} {given : RecordFields} (holds : Holds fields given)
    (doc : fields.lookup "doc_comment" = m.doc.map .text :=
      by simp [List.lookup_append, List.lookup_cons])
    (tags : fields.lookup "tags" = some (.array (m.tags.map Tag.toJson)) :=
      by simp [List.lookup_append, List.lookup_cons])
    (annotations : fields.lookup "annotations" =
        some (.object (m.annotations.map fun entry => (entry.1, valuesToJson entry.2))) :=
      by simp [List.lookup_append, List.lookup_cons]) :
    Metadata.ofFields? .unlimited given = some m := by
  have doc : text? given "doc_comment" = some m.doc := holds.text? doc
  have tags : listOf given "tags" Tag.read? = some m.tags :=
    holds.listOf (fun t _ => t.read?_ofJson) tags
  have annotations : dictionaryOf given "annotations" (readValues? .unlimited) =
      some m.annotations :=
    holds.dictionaryOf proper.ordered
      (fun entry member =>
        readValues?_ofJson (proper.values entry member).1 (proper.values entry member).2)
      annotations
  rw [Metadata.ofFields?]
  apply bind_eq_some doc
  apply bind_eq_some tags
  apply bind_eq_some annotations
  rfl

theorem Metadata.IsProper.isKept_toFields {m : Metadata} (proper : m.IsProper) :
    ∀ f ∈ m.toFields, f.2.IsKept := by
  have doc := @Json.isKept_of_mem_optionalField _ "doc_comment" m.doc .text fun s _ => .text s
  have tags (t : Tag) : t.toJson.IsKept := by simp [Tag.toJson]
  have annotations : ∀ entry ∈ m.annotations, (valuesToJson entry.2).IsKept := by
    intro entry member
    rw [valuesToJson_eq, Json.isKept_object_iff, List.forall_mem_map]
    exact fun value inside => ((proper.values entry member).2 value inside).isKept_toJson
  have object : (Json.object (m.annotations.map fun entry =>
      (entry.1, valuesToJson entry.2))).IsKept :=
    .object (List.forall_mem_map.mpr annotations)
  rw [Metadata.toFields, List.forall_mem_append, List.forall_mem_cons, List.forall_mem_singleton]
  exact ⟨doc, by simp [tags], object⟩

/-! ## What is read from values in memory -/

theorem AnnotationValue.isProper_of_read? {n : Node} (kept : n.IsKept) {a : AnnotationValue}
    (reads : AnnotationValue.read? .unlimited n = some a) : a.IsProper := by
  rcases kept with ⟨v, kept, rfl⟩
  rw [AnnotationValue.read?, Node.valueInside?_ofJson, Option.bind_some] at reads
  exact isProper_of_ofJson? kept reads

theorem isProper_of_readValues? {n : Node} (kept : n.IsKept) {values : AnnotationValues}
    (reads : readValues? .unlimited n = some values) :
    values.Ordered ∧ ∀ value ∈ values, value.2.IsProper := by
  rcases ordered_of_dictionary kept reads with ⟨ordered, each⟩
  refine ⟨ordered, fun value member => ?_⟩
  rcases each value member with ⟨node, kept, step⟩
  exact AnnotationValue.isProper_of_read? kept step

theorem Metadata.isProper_of_ofFields? {given : RecordFields} (kept : ∀ f ∈ given, f.2.IsKept)
    {m : Metadata} (reads : Metadata.ofFields? .unlimited given = some m) : m.IsProper := by
  simp only [Metadata.ofFields?, Option.bind_eq_bind, Option.bind_eq_some_iff, Option.pure_def,
    Option.some.injEq] at reads
  rcases reads with ⟨doc, _, tags, _, annotations, dictionary, rfl⟩
  rcases ordered_of_dictionaryOf kept dictionary with ⟨ordered, each⟩
  refine ⟨ordered, fun entry member => ?_⟩
  rcases each entry member with ⟨node, kept, step⟩
  exact isProper_of_readValues? kept step

end Source

end ComponentGen

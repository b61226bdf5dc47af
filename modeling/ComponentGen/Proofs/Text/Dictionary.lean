import ComponentGen.Text.Dictionary

/-!
# Laws of dictionaries

Collecting entries gives a dictionary whose keys are in order, and a dictionary whose keys are in
order is collected from its own entries.
-/

namespace ComponentGen.Dictionary

variable {α : Type}

theorem mem_insert {key : String} {value : α} {d : Dictionary α} {entry : String × α}
    (member : entry ∈ d.insert key value) : entry = (key, value) ∨ entry ∈ d := by
  induction d with
  | nil => simpa [insert] using member
  | cons first rest ih =>
      rcases first with ⟨k, v⟩
      rw [insert] at member
      split at member
      · simpa using member
      · split at member
        · rcases List.mem_cons.mp member with rfl | later
          · exact .inl rfl
          · exact .inr (List.mem_cons_of_mem _ later)
        · rcases List.mem_cons.mp member with rfl | later
          · exact .inr (List.mem_cons_self ..)
          · exact (ih later).imp id (List.mem_cons_of_mem _)

@[simp]
theorem get?_cons (k : String) (v : α) (rest : Dictionary α) (key : String) :
    get? ((k, v) :: rest) key = if key = k then some v else get? rest key := by
  by_cases same : key = k <;> simp [get?, List.lookup_cons, same, beq_eq_false_iff_ne.mpr]

/-- Setting a key changes what is found for that key and for no other. -/
theorem get?_insert (d : Dictionary α) (key other : String) (value : α) :
    (d.insert key value).get? other = if other = key then some value else d.get? other := by
  induction d with
  | nil => simp [insert]
  | cons first rest ih =>
      rcases first with ⟨k, v⟩
      rw [insert]
      split
      · simp
      · split
        case isTrue replaced =>
          subst replaced
          by_cases same : other = key <;> simp [same]
        case isFalse different =>
          rw [get?_cons, ih, get?_cons]
          by_cases same : other = key
          · simp [same, different]
          · simp [same]

/-- A key has a value exactly if it is one of the keys. -/
theorem exists_get?_iff {d : Dictionary α} {key : String} :
    (∃ value, d.get? key = some value) ↔ key ∈ d.map (·.1) := by
  rw [← Option.isSome_iff_exists, get?, List.lookup_isSome_iff, List.mem_map]
  constructor
  · rintro ⟨entry, member, same⟩
    exact ⟨entry, member, (eq_of_beq same).symm⟩
  · rintro ⟨entry, member, rfl⟩
    exact ⟨entry, member, beq_self_eq_true _⟩

theorem Ordered.insert {d : Dictionary α} (ordered : d.Ordered) (key : String) (value : α) :
    (d.insert key value).Ordered := by
  induction d with
  | nil => simp [Dictionary.insert, Ordered]
  | cons first rest ih =>
      rcases first with ⟨k, v⟩
      rcases List.pairwise_cons.mp ordered with ⟨before, others⟩
      rw [Dictionary.insert]
      split
      · rename_i less
        refine List.pairwise_cons.mpr ⟨?_, ordered⟩
        rintro entry (_ | ⟨_, later⟩)
        · exact less
        · exact String.lt_trans less (before entry later)
      · rename_i notLess
        split
        · rename_i same
          subst same
          exact List.pairwise_cons.mpr ⟨before, others⟩
        · rename_i different
          refine List.pairwise_cons.mpr ⟨?_, ih others⟩
          intro entry member
          rcases mem_insert member with rfl | later
          · have le : k ≤ key := String.not_lt.mp notLess
            have ne : ¬ key ≤ k := fun back => different (String.le_antisymm back le)
            exact String.not_le.mp ne
          · exact before entry later

theorem insert_of_before {d : Dictionary α} {key : String} (before : ∀ entry ∈ d, entry.1 < key)
    (value : α) : d.insert key value = d ++ [(key, value)] := by
  induction d with
  | nil => rfl
  | cons first rest ih =>
      rcases first with ⟨k, v⟩
      rw [List.forall_mem_cons] at before
      have notLess : ¬ key < k := String.lt_asymm before.1
      have different : key ≠ k := fun same => String.lt_irrefl k (same ▸ before.1)
      rw [Dictionary.insert, if_neg notLess, if_neg different, ih before.2, List.cons_append]

/-- The entries of a dictionary are among those that it was collected from. -/
theorem mem_ofEntries {entries : List (String × α)} {entry : String × α}
    (member : entry ∈ ofEntries entries) : entry ∈ entries := by
  have collected (entries : List (String × α)) (d : Dictionary α)
      (member : entry ∈ entries.foldl (fun d entry => d.insert entry.1 entry.2) d) :
      entry ∈ d ∨ entry ∈ entries := by
    induction entries generalizing d with
    | nil => exact .inl member
    | cons first rest ih =>
        rcases ih _ member with known | later
        · rcases mem_insert known with rfl | earlier
          · exact .inr (List.mem_cons_self ..)
          · exact .inl earlier
        · exact .inr (List.mem_cons_of_mem _ later)
  exact (collected entries [] member).resolve_left (by simp)

theorem ordered_ofEntries (entries : List (String × α)) : (ofEntries entries).Ordered := by
  have collected (d : Dictionary α) (ordered : d.Ordered) :
      Ordered (entries.foldl (fun d entry => d.insert entry.1 entry.2) d) := by
    induction entries generalizing d with
    | nil => exact ordered
    | cons first rest ih => exact ih _ (ordered.insert first.1 first.2)
  exact collected [] .nil

/-- A dictionary is collected from its own entries. -/
theorem Ordered.ofEntries_eq_self {d : Dictionary α} (ordered : d.Ordered) : ofEntries d = d := by
  -- Each entry goes behind those collected before it.
  have collected (front back : Dictionary α) (ordered : Ordered (front ++ back)) :
      back.foldl (fun d entry => Dictionary.insert entry.1 entry.2 d) front = front ++ back := by
    induction back generalizing front with
    | nil => simp
    | cons first rest ih =>
        have before : ∀ entry ∈ front, entry.1 < first.1 := fun entry member =>
          (List.pairwise_append.mp ordered).2.2 entry member first (List.mem_cons_self ..)
        rw [List.foldl_cons, insert_of_before before, ih _ (by simpa using ordered)]
        simp
  exact collected [] d ordered

end ComponentGen.Dictionary

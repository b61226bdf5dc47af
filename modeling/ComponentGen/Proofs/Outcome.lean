import Mathlib.Data.List.Forall2

/-!
# Computations that may fail

When a sequence of two computations succeeds and when it fails, and the same for a computation
that is made for each element of a list: it succeeds if it does so for every element, and
otherwise fails with the failure of the first element that has one.
-/

namespace ComponentGen.Outcome

variable {ε α β : Type}

theorem bind_eq_ok_iff {first : Except ε α} {next : α → Except ε β} {result : β} :
    (first >>= next) = .ok result ↔ ∃ value, first = .ok value ∧ next value = .ok result := by
  cases first <;> simp [bind, Except.bind]

theorem bind_eq_error_iff {first : Except ε α} {next : α → Except ε β} {failure : ε} :
    (first >>= next) = .error failure ↔
      first = .error failure ∨ ∃ value, first = .ok value ∧ next value = .error failure := by
  cases first <;> simp [bind, Except.bind]

theorem map_eq_ok_iff {first : Except ε α} {f : α → β} {result : β} :
    first.map f = .ok result ↔ ∃ value, first = .ok value ∧ f value = result := by
  cases first <;> simp [Except.map]

theorem mapError_eq_ok_iff {ε' : Type} {first : Except ε α} {f : ε → ε'} {result : α} :
    first.mapError f = .ok result ↔ first = .ok result := by
  cases first <;> simp [Except.mapError]

theorem pure_eq_ok_iff {value result : α} :
    (pure value : Except ε α) = .ok result ↔ value = result := by
  simp [pure, Except.pure]

/-- Two sequences have the same outcome up to `g` if their first computations have the same
outcome up to `f`, and what follows does not tell values apart that are the same up to `f`. -/
theorem map_bind_congr {γ δ : Type} {first other : Except ε α} {next later : α → Except ε β}
    {f : α → γ} {g : β → δ} (same : first.map f = other.map f)
    (follows : ∀ a b, f a = f b → (next a).map g = (later b).map g) :
    (first >>= next).map g = (other >>= later).map g := by
  cases first with
  | error failure =>
      cases other with
      | error again =>
          cases same
          rfl
      | ok b => cases same
  | ok a =>
      cases other with
      | error failure => cases same
      | ok b => exact follows a b (Except.ok.inj same)

/-! ## One computation for each element of a list -/

/-- Elements have results that go with them one by one exactly if each of them has one. -/
theorem exists_forall₂_iff {r : α → β → Prop} {items : List α} :
    (∃ results, List.Forall₂ r items results) ↔ ∀ item ∈ items, ∃ result, r item result := by
  induction items with
  | nil => simp
  | cons item rest ih =>
      rw [List.forall_mem_cons, ← ih]
      constructor
      · rintro ⟨_, _ | ⟨first, others⟩⟩
        exact ⟨⟨_, first⟩, _, others⟩
      · rintro ⟨⟨result, first⟩, results, others⟩
        exact ⟨result :: results, .cons first others⟩

theorem mapM_eq_ok_iff {f : α → Except ε β} {items : List α} {results : List β} :
    items.mapM f = .ok results ↔
      List.Forall₂ (fun item result => f item = .ok result) items results := by
  induction items generalizing results with
  | nil => simp [pure, Except.pure, eq_comm]
  | cons item rest ih =>
      simp only [List.mapM_cons, bind_eq_ok_iff, pure_eq_ok_iff, List.forall₂_cons_left_iff, ih]
      constructor
      · rintro ⟨value, step, values, run, rfl⟩
        exact ⟨value, values, step, run, rfl⟩
      · rintro ⟨value, values, step, run, rfl⟩
        exact ⟨value, step, values, run, rfl⟩

/-- The same for computations whose failures say nothing. -/
theorem mapM_eq_some_iff {f : α → Option β} {items : List α} {results : List β} :
    items.mapM f = some results ↔
      List.Forall₂ (fun item result => f item = some result) items results := by
  induction items generalizing results with
  | nil => simp [eq_comm]
  | cons item rest ih =>
      simp only [List.mapM_cons, Option.bind_eq_bind, Option.bind_eq_some_iff, Option.pure_def,
        Option.some.injEq, List.forall₂_cons_left_iff, ih]
      constructor
      · rintro ⟨value, step, values, run, rfl⟩
        exact ⟨value, values, step, run, rfl⟩
      · rintro ⟨value, values, step, run, rfl⟩
        exact ⟨value, step, values, run, rfl⟩

theorem exists_eq_some_of_mem_mapM {f : α → Option β} {items : List α} {results : List β}
    (run : items.mapM f = some results) {result : β} (member : result ∈ results) :
    ∃ item ∈ items, f item = some result := by
  have each := mapM_eq_some_iff.mp run
  clear run
  induction each with
  | nil => cases member
  | @cons item first items others step _ ih =>
      rcases List.mem_cons.mp member with rfl | later
      · exact ⟨item, List.mem_cons_self .., step⟩
      · rcases ih later with ⟨found, inside, step⟩
        exact ⟨found, List.mem_cons_of_mem item inside, step⟩

/-- Where every element gives something, none is left out. -/
theorem forall₂_filterMap {r : α → β → Prop} {f : α → Option β} {items : List α}
    (each : ∀ item ∈ items, ∃ result, f item = some result ∧ r item result) :
    List.Forall₂ r items (items.filterMap f) := by
  induction items with
  | nil => exact .nil
  | cons item rest ih =>
      rw [List.forall_mem_cons] at each
      rcases each.1 with ⟨result, given, related⟩
      rw [List.filterMap_cons_some given]
      exact .cons related (ih each.2)

/-- The failure is that of the first element that has one. -/
theorem mapM_eq_error_iff {f : α → Except ε β} {items : List α} {failure : ε} :
    items.mapM f = .error failure ↔
      ∃ before item after, items = before ++ item :: after ∧
        (∀ earlier ∈ before, ∃ value, f earlier = .ok value) ∧ f item = .error failure := by
  induction items with
  | nil => simp [pure, Except.pure]
  | cons item rest ih =>
      simp only [List.mapM_cons, bind_eq_error_iff, ih]
      constructor
      · rintro (step |
          ⟨value, step, ⟨before, found, after, rfl, passed, failed⟩ | ⟨_, _, impossible⟩⟩)
        · exact ⟨[], item, rest, rfl, by simp, step⟩
        · refine ⟨item :: before, found, after, rfl, ?_, failed⟩
          rintro earlier (_ | ⟨_, member⟩)
          · exact ⟨value, step⟩
          · exact passed earlier member
        · cases impossible
      · rintro ⟨before, found, after, split, passed, failed⟩
        cases before with
        | nil =>
            cases split
            exact .inl failed
        | cons earlier before =>
            cases split
            rcases passed item (List.mem_cons_self ..) with ⟨value, step⟩
            refine .inr ⟨value, step, .inl ⟨before, found, after, rfl, ?_, failed⟩⟩
            intro earlier member
            exact passed earlier (List.mem_cons_of_mem item member)

/-- If the outcomes for each element are the same up to `g`, then so are those for the list. -/
theorem map_mapM_congr {γ : Type} {f h : α → Except ε β} {g : β → γ} {items : List α}
    (same : ∀ item ∈ items, (f item).map g = (h item).map g) :
    (items.mapM f).map (·.map g) = (items.mapM h).map (·.map g) := by
  induction items with
  | nil => rfl
  | cons item rest ih =>
      rw [List.forall_mem_cons] at same
      rw [List.mapM_cons, List.mapM_cons]
      apply map_bind_congr same.1
      intro a b first
      apply map_bind_congr (ih same.2)
      intro as bs others
      exact congrArg Except.ok (congrArg₂ List.cons first others)

/-- Elements that give nothing can be left out. -/
theorem map_mapM_filter {f : α → Except ε (Option β)} {keeps : α → Bool}
    (passes : ∀ item, keeps item = false → f item = .ok none) (items : List α) :
    (items.mapM f).map (·.filterMap id) = ((items.filter keeps).mapM f).map (·.filterMap id) := by
  induction items with
  | nil => rfl
  | cons item rest ih =>
      cases kept : keeps item with
      | false =>
          rw [List.filter_cons_of_neg (by simp [kept]), ← ih, List.mapM_cons, passes item kept]
          cases rest.mapM f <;> rfl
      | true =>
          rw [List.filter_cons_of_pos kept, List.mapM_cons, List.mapM_cons]
          cases f item with
          | error failure => rfl
          | ok result =>
              cases whole : rest.mapM f <;> cases part : (rest.filter keeps).mapM f <;>
                simp_all [bind, Except.bind, Except.map, pure, Except.pure, List.filterMap_cons]

end ComponentGen.Outcome

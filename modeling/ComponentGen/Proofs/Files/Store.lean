import ComponentGen.Files.Store

/-!
# What changes of a store do

Making directories leaves every file as it was, also when it fails half way.  Writing a file
changes that file and no other, and the path that was written to then names the file with its new
content: a directory is never lost, so the path leads to the same place as before.
-/

namespace ComponentGen.Files.Store

/-! ## Making directories -/

/-- The store that a change leaves, whether it succeeds or not. -/
def left {α : Type} : EStateM.Result FileError Store α → Store
  | .ok _ s => s
  | .error _ s => s

@[simp]
theorem left_ok {α : Type} (value : α) (s : Store) : left (.ok value s) = s :=
  rfl

@[simp]
theorem left_error {α : Type} (reason : FileError) (s : Store) :
    left (.error reason s : EStateM.Result FileError Store α) = s :=
  rfl

@[simp]
theorem content?_withDirectory (s : Store) (place : Location) :
    (s.withDirectory place).content? = s.content? :=
  rfl

/-- What is done with the store is done with the store the change starts from. -/
theorem get_bind {α : Type} (next : Store → Change α) (s : Store) :
    ((get : Change Store) >>= next) s = next s s :=
  rfl

theorem makeFrom_cons (complete : Bool) (place : Location) (part : String) (rest : List String)
    (s : Store) :
    makeFrom complete place (part :: rest) s =
      if (s.content? (step place part)).isSome then
        .error (if !complete || rest.all isIdle then .alreadyExists else .notDirectory) s
      else
        makeFrom (complete && s.isDirectory (step place part)) (step place part) rest
          (s.withDirectory (step place part)) := by
  rw [makeFrom, get_bind]
  split <;> rfl

/-- No step on the way touches a file. -/
theorem content?_makeFrom (complete : Bool) (place : Location) (parts : List String) (s : Store) :
    (left (makeFrom complete place parts s)).content? = s.content? := by
  induction parts generalizing complete place s with
  | nil => rfl
  | cons part rest ih =>
      rw [makeFrom_cons]
      split
      · rfl
      · rw [ih, content?_withDirectory]

theorem content?_makeDirectories (path : String) (s : Store) :
    (left (makeDirectories path s)).content? = s.content? :=
  content?_makeFrom true (start path).1 (start path).2 s

/-! ## Putting a file -/

@[simp]
theorem content?_put_self (s : Store) (place : Location) (text : String) :
    (s.put place text).content? place = some text := by
  simp [content?, put]

theorem content?_put_of_ne (s : Store) {place other : Location} (different : other ≠ place)
    (text : String) : (s.put place text).content? other = s.content? other := by
  have notFirst : (other == place) = false := beq_eq_false_iff_ne.mpr different
  simp only [content?, put, List.lookup_cons, notFirst]
  induction s.files with
  | nil => rfl
  | cons file rest ih =>
      obtain ⟨location, content⟩ := file
      by_cases here : location = place
      · subst location
        simpa [List.lookup_cons, notFirst] using ih
      · simp [List.lookup_cons, here, ih]

/-- Every directory stays one. -/
theorem isDirectory_put {s : Store} {directory : Location} (place : Location) (text : String)
    (isOne : s.isDirectory directory = true) : (s.put place text).isDirectory directory = true := by
  simp only [isDirectory, Bool.or_eq_true, List.any_eq_true] at isOne ⊢
  rcases isOne with (top | ⟨file, member, above⟩) | made
  · exact .inl (.inl top)
  · apply Or.inl
    apply Or.inr
    by_cases here : file.1 = place
    · exact ⟨(place, text), List.mem_cons_self .., by simpa [← here] using above⟩
    · exact ⟨file, List.mem_cons_of_mem _ (by simpa [here] using member), above⟩
  · exact .inr made

/-- A path that leads somewhere still leads there. -/
theorem follow_put {s : Store} {from_ target : Location} {parts : List String} (place : Location)
    (text : String) (leads : s.follow from_ parts = .ok target) :
    (s.put place text).follow from_ parts = .ok target := by
  induction parts generalizing from_ with
  | nil => exact leads
  | cons part rest ih =>
      rw [follow] at leads ⊢
      cases isOne : s.isDirectory from_ with
      | false => simp [isOne] at leads
      | true =>
          rw [isOne, if_pos rfl] at leads
          rw [isDirectory_put place text isOne, if_pos rfl]
          exact ih leads

theorem locate_put {s : Store} {path : String} {target : Location} (place : Location) (text : String)
    (leads : s.locate path = .ok target) : (s.put place text).locate path = .ok target := by
  unfold locate at leads ⊢
  split at leads
  case isTrue => cases leads
  case isFalse named =>
    rw [if_neg named]
    exact follow_put place text leads

/-! ## Writing a file -/

theorem write_apply (path text : String) (s : Store) :
    write path text s =
      match s.locate path with
      | .error e => .error (if e == .missing && endsInSlash path then .isDirectory else e) s
      | .ok place =>
          if s.isDirectory place then .error .isDirectory s else .ok () (s.put place text) := by
  rw [write, get_bind]
  cases s.locate path with
  | error e => rfl
  | ok place =>
      dsimp only
      split <;> rfl

/-- A file is written where its path leads, if no directory is there. -/
theorem write_eq_ok_iff {path text : String} {s after : Store} :
    write path text s = .ok () after ↔
      ∃ place, s.locate path = .ok place ∧ s.isDirectory place = false ∧
        after = s.put place text := by
  rw [write_apply]
  constructor
  · intro written
    split at written
    case h_1 => cases written
    case h_2 place leads =>
      split at written
      case isTrue => cases written
      case isFalse noDirectory =>
        cases written
        exact ⟨place, leads, Bool.eq_false_iff.mpr noDirectory, rfl⟩
  · rintro ⟨place, leads, noDirectory, rfl⟩
    simp only [leads, noDirectory, Bool.false_eq_true, if_false]

/-- A write that fails changes nothing. -/
theorem eq_of_write_error {path text : String} {s after : Store} {reason : FileError}
    (failed : write path text s = .error reason after) : after = s := by
  rw [write_apply] at failed
  split at failed
  · cases failed
    rfl
  · split at failed
    · cases failed
      rfl
    · cases failed

/-- What was written is read back, and every other file is as it was. -/
theorem read_of_write {path text : String} {s after : Store}
    (written : write path text s = .ok () after) :
    after.read path = .ok text ∧
      ∀ place, after.locate path ≠ .ok place → after.content? place = s.content? place := by
  rcases write_eq_ok_iff.mp written with ⟨place, leads, _, rfl⟩
  have leadsStill := locate_put place text leads
  constructor
  · simp only [read, leadsStill, content?_put_self]
  · intro other elsewhere
    apply content?_put_of_ne
    rintro rfl
    exact elsewhere leadsStill

end ComponentGen.Files.Store

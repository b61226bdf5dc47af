import ComponentGen.Text.Trim
import Mathlib.Data.List.DropRight
import Mathlib.Data.List.TakeDrop

/-!
# Laws of trimming

A trimmed text is a part of the text it comes from, neither starts nor ends with white space,
and is trimmed already.  It is empty exactly if the text is blank.
-/

namespace ComponentGen.Text

/-- A row of characters with a property ends where the first one without it stands. -/
theorem span_append {p : Char → Bool} {front back : List Char}
    (all : ∀ c ∈ front, p c = true) (stops : ∀ c ∈ back.head?, p c = false) :
    (front ++ back).span p = (front, back) := by
  rw [List.span_eq_takeWhile_dropWhile, List.takeWhile_append_of_pos all,
    List.dropWhile_append_of_pos all]
  cases back with
  | nil => simp
  | cons c back => simp [stops c rfl]

/-- Every text is cut where its first row of characters with a property ends. -/
theorem exists_span_eq (p : Char → Bool) (cs : List Char) :
    ∃ front back, cs.span p = (front, back) ∧ cs = front ++ back ∧
      (∀ c ∈ front, p c = true) ∧ ∀ c ∈ back.head?, p c = false := by
  refine ⟨cs.takeWhile p, cs.dropWhile p, List.span_eq_takeWhile_dropWhile p cs,
    List.takeWhile_append_dropWhile.symm, ?_, ?_⟩
  · exact List.all_eq_true.mp (List.all_takeWhile)
  · intro c first
    have stops := List.head?_dropWhile_not p cs
    rw [Option.mem_def.mp first] at stops
    simpa using stops

/-- Characters that neither start nor end with white space. -/
def IsTrimmed (cs : List Char) : Prop :=
  (∀ c ∈ cs.head?, isSpace c = false) ∧ ∀ c ∈ cs.getLast?, isSpace c = false

theorem trimRight_eq_rdropWhile (cs : List Char) : trimRight cs = cs.rdropWhile isSpace :=
  rfl

theorem trimRight_isPrefix (cs : List Char) : trimRight cs <+: cs := by
  rw [trimRight_eq_rdropWhile]
  exact List.rdropWhile_prefix isSpace cs

theorem trimLeft_isSuffix (cs : List Char) : trimLeft cs <:+ cs :=
  List.dropWhile_suffix isSpace

/-- Cutting at the right end leaves what the text starts with, if anything is left. -/
theorem head?_trimRight {cs : List Char} (left : trimRight cs ≠ []) :
    (trimRight cs).head? = cs.head? := by
  rcases trimRight_isPrefix cs with ⟨tail, split⟩
  have first : (trimRight cs ++ tail).head? = (trimRight cs).head? :=
    List.head?_append_of_ne_nil (trimRight cs) left
  rw [split] at first
  exact first.symm

theorem isTrimmed_trimRight_trimLeft (cs : List Char) :
    IsTrimmed (trimRight (trimLeft cs)) := by
  constructor
  · intro c first
    have left : trimRight (trimLeft cs) ≠ [] := by
      intro empty
      simp [empty] at first
    rw [head?_trimRight left] at first
    have stops := List.head?_dropWhile_not isSpace cs
    rw [trimLeft] at first
    rw [Option.mem_def.mp first] at stops
    simpa using stops
  · intro c last
    rw [trimRight, List.getLast?_reverse, trimLeft] at last
    have stops := List.head?_dropWhile_not isSpace (trimLeft cs).reverse
    rw [Option.mem_def.mp last] at stops
    simpa using stops

theorem trimLeft_eq_self {cs : List Char} (starts : ∀ c ∈ cs.head?, isSpace c = false) :
    trimLeft cs = cs := by
  cases cs with
  | nil => rfl
  | cons c rest => simp [trimLeft, starts c rfl]

/-- White space at the left end does not count. -/
theorem trimLeft_append {blanks : List Char} (spaces : ∀ c ∈ blanks, isSpace c = true)
    (cs : List Char) : trimLeft (blanks ++ cs) = trimLeft cs :=
  List.dropWhile_append_of_pos spaces

/-- White space at the right end does not count. -/
theorem trimRight_append (cs : List Char) {blanks : List Char}
    (spaces : ∀ c ∈ blanks, isSpace c = true) : trimRight (cs ++ blanks) = trimRight cs := by
  rw [trimRight, List.reverse_append, trimLeft_append (by simpa using spaces), trimRight]

theorem trimLeft_isPrefix_trimLeft {part whole : List Char} (within : part <+: whole) :
    trimLeft part <+: trimLeft whole := by
  rcases within with ⟨tail, rfl⟩
  rw [trimLeft, trimLeft, List.dropWhile_append]
  split
  · rename_i blank
    rw [List.isEmpty_iff.mp blank]
    exact List.nil_prefix
  · exact List.prefix_append _ tail

/-- Trimmed characters stay as they are. -/
theorem IsTrimmed.trimRight_trimLeft {cs : List Char} (trimmed : IsTrimmed cs) :
    trimRight (trimLeft cs) = cs := by
  have reversed : trimLeft cs.reverse = cs.reverse := by
    apply trimLeft_eq_self
    rw [List.head?_reverse]
    exact trimmed.2
  rw [trimLeft_eq_self trimmed.1, trimRight, reversed, List.reverse_reverse]

/-- Characters without white space among them are trimmed. -/
theorem isTrimmed_of_forall {cs : List Char} (visible : ∀ c ∈ cs, isSpace c = false) :
    IsTrimmed cs :=
  ⟨fun c first => visible c (List.mem_of_mem_head? first),
    fun c last => visible c (List.mem_of_mem_getLast? last)⟩

@[simp]
theorem toList_trim (s : String) : (trim s).toList = trimRight (trimLeft s.toList) := by
  simp [trim]

/-- A text is its own trimmed text exactly if there is nothing to trim. -/
theorem trim_eq_self_iff (s : String) : trim s = s ↔ IsTrimmed s.toList := by
  constructor
  · intro same
    rw [← same, toList_trim]
    exact isTrimmed_trimRight_trimLeft s.toList
  · intro trimmed
    rw [trim, trimmed.trimRight_trimLeft, String.ofList_toList]

/-- Trimming a second time changes nothing. -/
@[simp]
theorem trim_trim (s : String) : trim (trim s) = trim s := by
  rw [trim_eq_self_iff, toList_trim]
  exact isTrimmed_trimRight_trimLeft s.toList

/-- A trimmed text is a part of the text. -/
theorem toList_trim_isInfix (s : String) : (trim s).toList <:+: s.toList := by
  rw [toList_trim]
  exact (trimRight_isPrefix _).isInfix.trans (trimLeft_isSuffix _).isInfix

/-- Around a trimmed text there is white space only. -/
theorem exists_toList_eq_trim (s : String) :
    ∃ left right, s.toList = left ++ (trim s).toList ++ right ∧
      (∀ c ∈ left, isSpace c = true) ∧ ∀ c ∈ right, isSpace c = true := by
  refine ⟨s.toList.takeWhile isSpace, (trimLeft s.toList).rtakeWhile isSpace, ?_,
    fun c => List.mem_takeWhile_imp, fun c => List.mem_rtakeWhile_imp⟩
  rw [toList_trim, List.append_assoc, trimRight_eq_rdropWhile, List.rdropWhile_append_rtakeWhile]
  exact List.takeWhile_append_dropWhile.symm

/-- Trimmed characters are what is left of a text that has only white space around them. -/
theorem toList_trim_of_append {s : String} {left middle right : List Char}
    (whole : s.toList = left ++ middle ++ right) (before : ∀ c ∈ left, isSpace c = true)
    (trimmed : IsTrimmed middle) (behind : ∀ c ∈ right, isSpace c = true) :
    (trim s).toList = middle := by
  rw [toList_trim, whole, List.append_assoc, trimLeft_append before]
  cases middle with
  | nil =>
      rw [List.nil_append, trimLeft, List.dropWhile_eq_nil_iff.mpr behind]
      rfl
  | cons c middle =>
      have same := trimmed.trimRight_trimLeft
      rw [trimLeft_eq_self trimmed.1] at same
      have starts : trimLeft (c :: middle ++ right) = c :: middle ++ right :=
        trimLeft_eq_self (by simpa using trimmed.1)
      rw [starts, trimRight_append _ behind, same]

/-- Nothing is left of a text exactly if it is blank. -/
theorem trim_eq_empty_iff (s : String) : trim s = "" ↔ isBlank s = true := by
  rw [← String.toList_inj, toList_trim, isBlank, List.all_eq_true]
  constructor
  · intro nothing
    rw [trimRight_eq_rdropWhile, String.toList_empty, List.rdropWhile_eq_nil_iff] at nothing
    have noneLeft : trimLeft s.toList = [] := by
      cases kept : trimLeft s.toList with
      | nil => rfl
      | cons c rest =>
          have stops := List.head?_dropWhile_not isSpace s.toList
          rw [← trimLeft, kept] at stops
          have blank := nothing c (by simp [kept])
          simp [blank] at stops
    exact List.dropWhile_eq_nil_iff.mp noneLeft
  · intro blank
    have noneLeft : trimLeft s.toList = [] := List.dropWhile_eq_nil_iff.mpr blank
    rw [noneLeft]
    rfl

theorem nonBlank?_eq_some_iff (s t : String) : nonBlank? s = some t ↔ trim s ≠ "" ∧ trim s = t := by
  rw [ne_eq, trim_eq_empty_iff]
  cases blank : isBlank s <;> simp [nonBlank?, blank]

theorem nonBlank?_eq_none_iff (s : String) : nonBlank? s = none ↔ trim s = "" := by
  rw [trim_eq_empty_iff]
  cases blank : isBlank s <;> simp [nonBlank?, blank]

theorem isBlank_nonBlank? {s t : String} (left : nonBlank? s = some t) : isBlank t = false := by
  rcases (nonBlank?_eq_some_iff s t).mp left with ⟨kept, rfl⟩
  rw [← Bool.not_eq_true, ← trim_eq_empty_iff, trim_trim]
  exact kept

/-- A text cannot be cut exactly if there is no white space in it. -/
theorem splitAtSpace?_eq_none_iff {s : String} :
    splitAtSpace? s = none ↔ s.toList.all (!isSpace ·) = true := by
  rw [splitAtSpace?, List.span_eq_takeWhile_dropWhile, List.all_eq_true]
  cases rest : s.toList.dropWhile (!isSpace ·) with
  | nil => simpa using List.dropWhile_eq_nil_iff.mp rest
  | cons c others =>
      have cut : s.toList.dropWhile (!isSpace ·) ≠ [] := by simp [rest]
      simpa using mt List.dropWhile_eq_nil_iff.mpr cut

/-- A text is cut at its first character of white space. -/
theorem splitAtSpace?_eq_some_iff {s word comment : String} :
    splitAtSpace? s = some (word, comment) ↔
      ∃ c, s.toList = word.toList ++ c :: comment.toList ∧ isSpace c = true ∧
        ∀ d ∈ word.toList, isSpace d = false := by
  constructor
  · intro cut
    rcases exists_span_eq (!isSpace ·) s.toList with ⟨front, back, split, whole, visible, stops⟩
    rw [splitAtSpace?, split] at cut
    rcases back with - | ⟨c, rest⟩
    · cases cut
    · cases cut
      refine ⟨c, by simpa using whole, by simpa using stops c rfl, ?_⟩
      simpa using visible
  · rintro ⟨c, whole, space, visible⟩
    have split : s.toList.span (!isSpace ·) = (word.toList, c :: comment.toList) := by
      rw [whole]
      apply span_append
      · simpa using visible
      · simpa using space
    rw [splitAtSpace?, split]
    simp

theorem after?_eq_some_iff {start cs rest : List Char} :
    after? start cs = some rest ↔ cs = start ++ rest := by
  rw [after?]
  constructor
  · intro found
    split at found
    case isTrue starts =>
      cases found
      exact (List.prefix_iff_eq_append.mp (List.isPrefixOf_iff_prefix.mp starts)).symm
    case isFalse => cases found
  · rintro rfl
    simp

theorem afterPrefix?_eq_some_iff {start s rest : String} :
    afterPrefix? start s = some rest ↔ s = start ++ rest := by
  rw [afterPrefix?, Option.map_eq_some_iff]
  constructor
  · rintro ⟨behind, found, rfl⟩
    rw [← String.toList_inj, after?_eq_some_iff.mp found]
    simp
  · rintro rfl
    exact ⟨rest.toList, after?_eq_some_iff.mpr (by simp), by simp⟩

/-- What stands behind white space in a trimmed text is more than white space, and trimmed once the
white space in front of it is gone. -/
theorem IsTrimmed.trimLeft_of_append {front rest : List Char} {c : Char}
    (trimmed : IsTrimmed (front ++ c :: rest)) (space : isSpace c = true) :
    trimLeft rest ≠ [] ∧ IsTrimmed (trimLeft rest) := by
  rcases List.eq_nil_or_concat rest with rfl | ⟨others, d, rfl⟩
  · have visible := trimmed.2 c (by simp)
    rw [space] at visible
    cases visible
  · have visible : isSpace d = false := trimmed.2 d (by simp [List.getLast?_cons])
    have left : trimLeft (others.concat d) ≠ [] := by
      rw [trimLeft, ne_eq, List.dropWhile_eq_nil_iff]
      intro spaces
      rw [spaces d (by simp)] at visible
      cases visible
    refine ⟨left, ?_, ?_⟩
    · intro e first
      have stops := List.head?_dropWhile_not isSpace (others.concat d)
      rw [trimLeft] at first
      rw [Option.mem_def.mp first] at stops
      simpa using stops
    · intro e last
      rcases trimLeft_isSuffix (others.concat d) with ⟨start, whole⟩
      have same : (others.concat d).getLast? = (trimLeft (others.concat d)).getLast? := by
        rw [← whole, List.getLast?_append_of_ne_nil _ left, whole]
      rw [Option.mem_def.mp last] at same
      have eq : d = e := by simpa using same
      rwa [← eq]

end ComponentGen.Text

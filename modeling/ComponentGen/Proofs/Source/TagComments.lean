import ComponentGen.Proofs.Text.Dictionary
import ComponentGen.Proofs.Text.Trim
import ComponentGen.Source.Metadata

/-!
# Comments that tags give

What a tag says about something else stands behind the first word of its value.  There is always
something to say, and no white space around it.  Of the tags with a name, those that say something
are collected by their words, where the last one on a word counts, and the others are kept aside in
their order.
-/

namespace ComponentGen.Source

open Text

/-! ## What one tag says -/

/-- A comment is trimmed, and something is left of it. -/
structure IsComment (comment : String) : Prop where
  present : comment ≠ ""
  trimmed : IsTrimmed comment.toList

/-- The value of a tag says a comment on a word: once trimmed, it is the word, white space and the
comment. -/
structure Tells (value word comment : String) : Prop where
  split : ∃ blanks, (trim value).toList = word.toList ++ blanks ++ comment.toList ∧ blanks ≠ [] ∧
    ∀ c ∈ blanks, isSpace c = true
  word : ∀ c ∈ word.toList, isSpace c = false
  comment : IsComment comment

/-- The word that the value of a tag is about, and the comment on it. -/
def told? (value : String) : Option (String × String) :=
  (splitAtSpace? (trim value)).map fun cut => (cut.1, String.ofList (trimLeft cut.2.toList))

theorem tells_of_told? {value word comment : String} (told : told? value = some (word, comment)) :
    Tells value word comment := by
  rcases Option.map_eq_some_iff.mp told with ⟨⟨_, rest⟩, cut, same⟩
  cases same
  rcases splitAtSpace?_eq_some_iff.mp cut with ⟨c, whole, space, visible⟩
  have trimmed : IsTrimmed (trim value).toList := (trim_eq_self_iff _).mp (trim_trim value)
  rw [whole] at trimmed
  rcases trimmed.trimLeft_of_append space with ⟨left, trimmedComment⟩
  constructor
  case split =>
    refine ⟨c :: rest.toList.takeWhile isSpace, ?_, List.cons_ne_nil _ _, ?_⟩
    · rw [whole, String.toList_ofList, trimLeft, List.append_assoc, List.cons_append,
        List.takeWhile_append_dropWhile]
    · rw [List.forall_mem_cons]
      exact ⟨space, fun d => List.mem_takeWhile_imp⟩
  case word => exact visible
  case comment =>
    refine ⟨?_, by simpa using trimmedComment⟩
    rw [ne_eq, ← String.toList_eq_nil_iff, String.toList_ofList]
    exact left

theorem Tells.told? {value word comment : String} (tells : Tells value word comment) :
    told? value = some (word, comment) := by
  rcases tells.split with ⟨- | ⟨c, blanks⟩, whole, gap, spaces⟩
  · exact absurd rfl gap
  · rw [List.forall_mem_cons] at spaces
    have cut : splitAtSpace? (trim value) =
        some (word, String.ofList (blanks ++ comment.toList)) := by
      rw [splitAtSpace?_eq_some_iff]
      exact ⟨c, by simpa using whole, spaces.1, tells.word⟩
    rw [Source.told?, cut, Option.map_some, String.toList_ofList, trimLeft_append spaces.2,
      trimLeft_eq_self tells.comment.trimmed.1, String.ofList_toList]

theorem told?_eq_some_iff {value word comment : String} :
    told? value = some (word, comment) ↔ Tells value word comment :=
  ⟨tells_of_told?, Tells.told?⟩

/-- A tag says something if there is white space inside its trimmed value. -/
def Tag.isWellFormed (tag : Tag) : Bool := (trim tag.value).toList.any isSpace

theorem Tag.isWellFormed_iff {tag : Tag} :
    tag.isWellFormed = true ↔ ∃ word comment, Tells tag.value word comment := by
  have cut : told? tag.value = none ↔ tag.isWellFormed = false := by
    rw [told?, Option.map_eq_none_iff, splitAtSpace?_eq_none_iff, ← List.not_any_eq_all_not,
      Bool.not_eq_true', isWellFormed]
  simp only [← told?_eq_some_iff]
  rw [← Bool.not_eq_false, ← cut]
  cases told? tag.value with
  | none => simp
  | some told => simpa using ⟨told.1, told.2, rfl⟩

/-! ## What all tags of a name say -/

namespace TagComments

/-- Everything that is known is a comment. -/
def IsProper (known : TagComments) : Prop :=
  ∀ entry ∈ known.comments, IsComment entry.2

theorem add_of_tells {value word comment : String} (tells : Tells value word comment)
    (known : TagComments) :
    known.add value = { known with comments := known.comments.insert word comment } := by
  rcases Option.map_eq_some_iff.mp tells.told? with ⟨cut, split, same⟩
  cases same
  rw [add, split]

theorem add_of_not_isWellFormed {tag : Tag} (malformed : tag.isWellFormed = false)
    (known : TagComments) :
    known.add tag.value = { known with malformed := known.malformed ++ [trim tag.value] } := by
  have whole : splitAtSpace? (trim tag.value) = none := by
    rw [splitAtSpace?_eq_none_iff, ← List.not_any_eq_all_not, ← Tag.isWellFormed, malformed]
    rfl
  rw [add, whole]

theorem IsProper.add {known : TagComments} (proper : known.IsProper) (tag : Tag) :
    (known.add tag.value).IsProper := by
  cases wellFormed : tag.isWellFormed with
  | false =>
      rw [add_of_not_isWellFormed wellFormed]
      exact proper
  | true =>
      rcases Tag.isWellFormed_iff.mp wellFormed with ⟨word, comment, tells⟩
      rw [add_of_tells tells]
      intro entry member
      rcases Dictionary.mem_insert member with rfl | earlier
      · exact tells.comment
      · exact proper entry earlier

end TagComments

/-- The last of some tags that says something on a word says this comment. -/
def LastTold (tags : List Tag) (word comment : String) : Prop :=
  ∃ before tag after, tags = before ++ tag :: after ∧ Tells tag.value word comment ∧
    ∀ later ∈ after, ∀ other, ¬ Tells later.value word other

/-- What tags are sorted into: the values of those that say nothing, in order, and for each word
that one of the others is about the last comment on it. -/
structure SortsTags (tags : List Tag) (known : TagComments) : Prop where
  malformed : known.malformed = (tags.filter (!·.isWellFormed)).map (trim ·.value)
  words : ∀ word, word ∈ known.comments.map (·.1) ↔
    ∃ tag ∈ tags, ∃ comment, Tells tag.value word comment
  onWord : ∀ word comment, known.on? word = some comment ↔ LastTold tags word comment
  once : known.comments.Ordered
  proper : known.IsProper

namespace SortsTags

variable {tags : List Tag} {known : TagComments}

theorem nil : SortsTags [] {} := by
  constructor
  case malformed => rfl
  case words => simp
  case onWord => simp [TagComments.on?, Dictionary.get?, LastTold]
  case once => exact .nil
  case proper =>
    intro entry member
    cases member

theorem lastTold_append_singleton {tag : Tag} {word comment : String} :
    LastTold (tags ++ [tag]) word comment ↔
      Tells tag.value word comment ∨
        (∀ other, ¬ Tells tag.value word other) ∧ LastTold tags word comment := by
  constructor
  · rintro ⟨before, found, after, split, tells, silent⟩
    rcases List.eq_nil_or_concat after with rfl | ⟨others, last, rfl⟩
    · rcases List.append_inj' split rfl with ⟨-, same⟩
      cases same
      exact .inl tells
    · rw [List.concat_eq_append, ← List.cons_append, ← List.append_assoc] at split
      rcases List.append_inj' split rfl with ⟨rfl, same⟩
      cases same
      refine .inr ⟨silent tag (by simp), before, found, others, rfl, tells, ?_⟩
      intro later member
      exact silent later (by simp [member])
  · rintro (tells | ⟨silentLast, before, found, after, rfl, tells, silent⟩)
    · exact ⟨tags, tag, [], rfl, tells, by simp⟩
    · refine ⟨before, found, after ++ [tag], by simp, tells, ?_⟩
      intro later member
      rcases List.mem_append.mp member with earlier | last
      · exact silent later earlier
      · cases List.mem_singleton.mp last
        exact silentLast

/-- A tag that says nothing goes behind those that say nothing either. -/
theorem add_of_not_isWellFormed (sorts : SortsTags tags known) {tag : Tag}
    (malformed : tag.isWellFormed = false) :
    SortsTags (tags ++ [tag]) (known.add tag.value) := by
  have silent : ∀ word comment, ¬ Tells tag.value word comment := by
    intro word comment tells
    have spoken := Tag.isWellFormed_iff.mpr ⟨word, comment, tells⟩
    rw [malformed] at spoken
    cases spoken
  rw [TagComments.add_of_not_isWellFormed malformed]
  constructor
  case malformed => simp [sorts.malformed, malformed]
  case words => simpa [silent] using sorts.words
  case onWord =>
    intro word comment
    rw [lastTold_append_singleton, ← sorts.onWord, TagComments.on?, TagComments.on?]
    simp [silent]
  case once => exact sorts.once
  case proper => exact sorts.proper

/-- A tag that says something replaces what the others say on its word. -/
theorem add_of_tells (sorts : SortsTags tags known) {tag : Tag} {word comment : String}
    (tells : Tells tag.value word comment) :
    SortsTags (tags ++ [tag]) (known.add tag.value) := by
  have wellFormed := Tag.isWellFormed_iff.mpr ⟨word, comment, tells⟩
  have proper := sorts.proper.add tag
  rw [TagComments.add_of_tells tells] at proper ⊢
  -- A tag says one thing only.
  have unique : ∀ w c, Tells tag.value w c ↔ w = word ∧ c = comment := by
    intro w c
    rw [← told?_eq_some_iff, tells.told?]
    simp [eq_comm]
  constructor
  case malformed => simp [sorts.malformed, wellFormed]
  case words =>
    intro w
    rw [← Dictionary.exists_get?_iff]
    simp only [Dictionary.get?_insert, List.mem_append, List.mem_singleton, or_and_right,
      exists_or, exists_eq_left, unique, ← sorts.words, ← Dictionary.exists_get?_iff]
    by_cases same : w = word
    · simp [same]
    · simp [same]
  case onWord =>
    intro w c
    rw [lastTold_append_singleton, TagComments.on?, Dictionary.get?_insert]
    simp only [unique, ← sorts.onWord, TagComments.on?]
    by_cases same : w = word
    · simp [same, eq_comm]
    · simp [same]
  case once => exact sorts.once.insert word comment
  case proper => exact proper

/-- One more tag is sorted in behind the others. -/
theorem add (sorts : SortsTags tags known) (tag : Tag) :
    SortsTags (tags ++ [tag]) (known.add tag.value) := by
  cases wellFormed : tag.isWellFormed with
  | false => exact sorts.add_of_not_isWellFormed wellFormed
  | true =>
      rcases Tag.isWellFormed_iff.mp wellFormed with ⟨word, comment, tells⟩
      exact sorts.add_of_tells tells

end SortsTags

/-- The tags of a name are sorted one after the other. -/
theorem sortsTags_tagComments (m : Metadata) (name : String) :
    SortsTags (m.tagsNamed name) (m.tagComments name) := by
  rw [Metadata.tagComments]
  induction m.tagsNamed name using List.reverseRecOn with
  | nil => exact .nil
  | append_singleton tags tag sorts =>
      rw [List.foldl_concat]
      exact sorts.add tag

/-- What tags say on a word is a comment. -/
theorem isComment_of_on? {m : Metadata} {name word comment : String}
    (said : (m.tagComments name).on? word = some comment) : IsComment comment := by
  rcases ((sortsTags_tagComments m name).onWord word comment).mp said with
    ⟨_, _, _, _, tells, _⟩
  exact tells.comment

end ComponentGen.Source

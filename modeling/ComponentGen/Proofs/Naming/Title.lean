import ComponentGen.Proofs.Naming.Words
import ComponentGen.Proofs.Text.LetterCase

/-!
# Titles of identifiers

A title puts blanks between the words of an identifier and changes the case of letters.  So it is
blank exactly if the identifier is; and for an identifier in ASCII the blanks show where its words
end, and the letters are those of the identifier.
-/

namespace ComponentGen.Naming

open Text

/-! ## Words -/

/-- Blanks between texts do not change whether all characters have a property that blanks have. -/
theorem all_intercalate_blank {p : Char → Bool} (blank : p ' ' = true) (parts : List (List Char)) :
    ([' '].intercalate parts).all p = parts.flatten.all p := by
  induction parts with
  | nil => rfl
  | cons part rest ih =>
      cases rest with
      | nil => simp
      | cons next rest =>
          rw [List.intercalate_cons_cons, List.flatten_cons, List.all_append, List.all_append,
            List.all_append, ih]
          simp [blank]

theorem map_toList_splitWords (s : String) : (splitWords s).map String.toList = words s.toList := by
  simp [splitWords, Function.comp_def]

theorem toList_intercalate_splitWords (s : String) :
    (" ".intercalate (splitWords s)).toList = [' '].intercalate (words s.toList) := by
  have separator : " ".toList = [' '] := by decide
  rw [String.toList_intercalate, separator, map_toList_splitWords]

theorem isBlank_intercalate_splitWords (s : String) :
    isBlank (" ".intercalate (splitWords s)) = isBlank s := by
  rw [isBlank, toList_intercalate_splitWords, all_intercalate_blank (by decide), flatten_words,
    isBlank]

/-! ## Titles -/

@[simp]
theorem isBlank_capitalize (s : String) : isBlank (capitalize s) = isBlank s := by
  rw [capitalize, isBlank, isBlank]
  cases s.toList with
  | nil => rfl
  | cons c rest => simp [all_isSpace_upperCase]

/-- The title of an identifier is blank exactly if the identifier is. -/
@[simp]
theorem isBlank_title (identifier : String) : isBlank (title identifier) = isBlank identifier := by
  rw [title, isBlank_capitalize, isBlank_lowerText, isBlank_intercalate_splitWords]

/-! ## Titles of identifiers in ASCII -/

theorem map_intercalate_blank (f : Char → Char) (kept : f ' ' = ' ') (parts : List (List Char)) :
    ([' '].intercalate parts).map f = [' '].intercalate (parts.map (·.map f)) := by
  induction parts with
  | nil => rfl
  | cons part rest ih =>
      cases rest with
      | nil => simp
      | cons next rest =>
          simp only [List.intercalate_cons_cons, List.map_append, List.map_cons, List.map_nil, kept]
          rw [ih, List.map_cons]

/-- Taking out the blanks between parts leaves the parts. -/
theorem filter_intercalate_blank {parts : List (List Char)} (inside : ∀ part ∈ parts, ' ' ∉ part) :
    ([' '].intercalate parts).filter (· != ' ') = parts.flatten := by
  have kept {part : List Char} (none : ' ' ∉ part) : part.filter (· != ' ') = part := by
    rw [List.filter_eq_self]
    intro c member
    simpa using ne_of_mem_of_not_mem member none
  induction parts with
  | nil => rfl
  | cons part rest ih =>
      rw [List.forall_mem_cons] at inside
      cases rest with
      | nil => simpa using kept inside.1
      | cons next rest =>
          rw [List.intercalate_cons_cons, List.filter_append, List.filter_append, kept inside.1,
            ih inside.2, List.flatten_cons]
          simp

theorem modifyHead_intercalate {parts : List (List Char)} (present : ∀ part ∈ parts, part ≠ [])
    (f : Char → Char) :
    ([' '].intercalate parts).modifyHead f =
      [' '].intercalate (parts.modifyHead (·.modifyHead f)) := by
  cases parts with
  | nil => rfl
  | cons part rest =>
      rw [List.forall_mem_cons] at present
      rcases List.exists_cons_of_ne_nil present.1 with ⟨c, part, rfl⟩
      cases rest with
      | nil => simp
      | cons next rest => simp [List.intercalate_cons_cons]

theorem capitalize_of_isAscii {s : String} {c : Char} {rest : List Char}
    (split : s.toList = c :: rest) (ascii : isAscii c = true) :
    capitalize s = String.ofList (c.toUpper :: rest) := by
  rw [capitalize, split]
  dsimp only
  rw [upperCase, if_pos ascii, List.singleton_append]

theorem toList_capitalize_of_ascii {s : String} (ascii : ∀ c ∈ s.toList, isAscii c = true) :
    (capitalize s).toList = s.toList.modifyHead Char.toUpper := by
  cases split : s.toList with
  | nil => simp [capitalize, split]
  | cons c rest =>
      have first : isAscii c = true := ascii c (by simp [split])
      rw [capitalize_of_isAscii split first, String.toList_ofList, List.modifyHead_cons]

/-- The words of a title in small letters, but for the first letter of all. -/
def titleWords (cs : List Char) : List (List Char) :=
  ((words cs).map (·.map Char.toLower)).modifyHead (·.modifyHead Char.toUpper)

theorem map_toLower_map_toLower {cs : List Char} (ascii : ∀ c ∈ cs, isAscii c = true) :
    (cs.map Char.toLower).map Char.toLower = cs.map Char.toLower := by
  rw [List.map_map, List.map_inj_left]
  exact fun c member => toLower_toLower (ascii c member)

theorem map_toLower_modifyHead {cs : List Char} (ascii : ∀ c ∈ cs, isAscii c = true) :
    ((cs.map Char.toLower).modifyHead Char.toUpper).map Char.toLower = cs.map Char.toLower := by
  cases cs with
  | nil => rfl
  | cons c rest =>
      rw [List.forall_mem_cons] at ascii
      rw [List.map_cons, List.modifyHead_cons, List.map_cons, toLower_toUpper_toLower ascii.1,
        map_toLower_map_toLower ascii.2]

section Ascii

variable {s : String} (ascii : ∀ c ∈ s.toList, isAscii c = true)

include ascii

theorem isAscii_of_mem_intercalate :
    ∀ c ∈ [' '].intercalate (words s.toList), isAscii c = true := by
  rw [← List.all_eq_true, all_intercalate_blank (by decide), flatten_words, List.all_eq_true]
  exact ascii

theorem toList_lowerText_of_ascii :
    (lowerText (" ".intercalate (splitWords s))).toList =
      ([' '].intercalate (words s.toList)).map Char.toLower := by
  rw [lowerText, String.toList_ofList, toList_intercalate_splitWords,
    lowerFrom_of_ascii [] (isAscii_of_mem_intercalate ascii)]

theorem toList_title_eq_modifyHead :
    (title s).toList =
      (([' '].intercalate (words s.toList)).map Char.toLower).modifyHead Char.toUpper := by
  rw [title, toList_capitalize_of_ascii, toList_lowerText_of_ascii ascii]
  rw [toList_lowerText_of_ascii ascii, List.forall_mem_map]
  exact fun c member => isAscii_toLower (isAscii_of_mem_intercalate ascii c member)

theorem toList_title_of_ascii : (title s).toList = [' '].intercalate (titleWords s.toList) := by
  rw [toList_title_eq_modifyHead ascii, map_intercalate_blank _ (by decide),
    modifyHead_intercalate, titleWords]
  rw [List.forall_mem_map]
  intro word member
  simpa using ne_nil_of_mem_words member

/-- The words of a title are those of the identifier, up to letter case. -/
theorem map_toLower_titleWords :
    (titleWords s.toList).map (·.map Char.toLower) =
      (words s.toList).map (·.map Char.toLower) := by
  have each : ∀ word ∈ words s.toList, ∀ c ∈ word, isAscii c = true := by
    intro word member c inside
    rw [← flatten_words s.toList] at ascii
    exact ascii c (List.mem_flatten_of_mem member inside)
  rw [titleWords]
  cases split : words s.toList with
  | nil => rfl
  | cons word rest =>
      rw [split, List.forall_mem_cons] at each
      rw [List.map_cons, List.modifyHead_cons, List.map_cons, map_toLower_modifyHead each.1,
        List.map_map]
      congr 1
      rw [List.map_inj_left]
      exact fun other member => map_toLower_map_toLower (each.2 other member)

/-- Behind its first character, a title has no capital. -/
theorem isUpper_of_mem_tail_title : ∀ c ∈ (title s).toList.tail, isUpper c = false := by
  have small : ∀ c ∈ ([' '].intercalate (words s.toList)).map Char.toLower, isUpper c = false := by
    rw [List.forall_mem_map]
    exact fun c member => isUpper_toLower (isAscii_of_mem_intercalate ascii c member)
  rw [toList_title_eq_modifyHead ascii, List.tail_modifyHead]
  exact fun c member => small c (List.mem_of_mem_tail member)

/-- No blank stands in a word of the title. -/
theorem blank_notMem_titleWords (noBlank : ' ' ∉ s.toList) :
    ∀ word ∈ titleWords s.toList, ' ' ∉ word := by
  intro word member blank
  have small : word.map Char.toLower ∈ (words s.toList).map (·.map Char.toLower) := by
    rw [← map_toLower_titleWords ascii]
    exact List.mem_map_of_mem member
  rcases List.mem_map.mp small with ⟨source, inWords, same⟩
  have inSource : ' ' ∈ source.map Char.toLower := by
    rw [same]
    exact List.mem_map_of_mem (f := Char.toLower) blank
  rcases List.mem_map.mp inSource with ⟨c, inside, lower⟩
  have inText : c ∈ s.toList := by
    rw [← flatten_words s.toList]
    exact List.mem_flatten_of_mem inWords inside
  rw [eq_blank_of_toLower (ascii c inText) lower] at inText
  exact noBlank inText

/-- Without its blanks, a title is the identifier up to letter case. -/
theorem map_toLower_filter_title (noBlank : ' ' ∉ s.toList) :
    ((title s).toList.filter (· != ' ')).map Char.toLower = s.toList.map Char.toLower := by
  rw [toList_title_of_ascii ascii, filter_intercalate_blank (blank_notMem_titleWords ascii noBlank),
    List.map_flatten, map_toLower_titleWords ascii, ← List.map_flatten, flatten_words]

end Ascii

/-- The words of an identifier are not empty, they make up the identifier, and they end exactly at
the cuts, which the classes of the characters tell.  So the title of an identifier in ASCII without
blanks has a single blank at each cut and nowhere else; without the blanks it is the identifier up
to letter case, and only its first character can be a capital. -/
theorem splitWords_exact (s : String) :
    (∀ c kind, CharClass.of c = kind ↔ HasClass c kind) ∧
      (∀ word ∈ splitWords s, word ≠ "") ∧
      String.join (splitWords s) = s ∧
      (∀ front a b rest, s.toList = front ++ a :: b :: rest →
        (EndsBefore ((splitWords s).map String.toList) (front.length + 1) ↔
          IsCut a b rest.head?)) ∧
      ((∀ c ∈ s.toList, isAscii c = true) → ' ' ∉ s.toList →
        (∃ parts, (title s).toList = [' '].intercalate parts ∧ (∀ part ∈ parts, ' ' ∉ part) ∧
          parts.map (·.map Char.toLower) = (splitWords s).map (·.toList.map Char.toLower)) ∧
        ((title s).toList.filter (· != ' ')).map Char.toLower = s.toList.map Char.toLower ∧
        ∀ c ∈ (title s).toList.tail, isUpper c = false) := by
  refine ⟨fun c kind => hasClass_iff.symm, ?_, ?_, ?_, ?_⟩
  · intro word member
    rcases List.mem_map.mp member with ⟨cs, inWords, rfl⟩
    simpa [← String.toList_inj] using ne_nil_of_mem_words inWords
  · rw [← String.toList_inj, String.toList_join, List.flatMap_def, map_toList_splitWords,
      flatten_words]
  · intro front a b rest split
    rw [map_toList_splitWords, split]
    exact endsBefore_words_iff front a b rest
  · intro ascii noBlank
    have sameWords : (splitWords s).map (·.toList.map Char.toLower) =
        (words s.toList).map (·.map Char.toLower) := by
      rw [← map_toList_splitWords, List.map_map]
      rfl
    refine ⟨⟨titleWords s.toList, toList_title_of_ascii ascii,
      blank_notMem_titleWords ascii noBlank, ?_⟩, map_toLower_filter_title ascii noBlank,
      isUpper_of_mem_tail_title ascii⟩
    rw [sameWords, map_toLower_titleWords ascii]

/-- An identifier in which a run of capitals gives its last one to the next word. -/
theorem splitWords_exact_parseXMLDocument :
    (∀ c ∈ "parseXMLDocument".toList, isAscii c = true) ∧ ' ' ∉ "parseXMLDocument".toList ∧
      EndsBefore ((splitWords "parseXMLDocument").map String.toList) 8 ∧
      ((title "parseXMLDocument").toList.filter (· != ' ')).map Char.toLower =
        "parseXMLDocument".toList.map Char.toLower := by
  have ascii : ∀ c ∈ "parseXMLDocument".toList, isAscii c = true :=
    List.all_eq_true.mp (by decide)
  have noBlank : ' ' ∉ "parseXMLDocument".toList := by decide
  have split : "parseXMLDocument".toList = "parseXM".toList ++ 'L' :: 'D' :: "ocument".toList := by
    decide
  have cut : IsCut 'L' 'D' "ocument".toList.head? :=
    .inr ⟨by decide, by decide, 'o', by decide, by decide⟩
  obtain ⟨_, _, _, cuts, titles⟩ := splitWords_exact "parseXMLDocument"
  exact ⟨ascii, noBlank, (cuts _ _ _ _ split).mpr cut, (titles ascii noBlank).2.1⟩

end ComponentGen.Naming

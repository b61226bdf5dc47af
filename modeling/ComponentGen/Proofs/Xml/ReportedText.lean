import ComponentGen.Proofs.Xml.Elements

/-!
# Texts as a reader reports them

What the definition of the format says about the texts of a document: line ends are reported as
line feeds, and every blank of an attribute value as a space.  So a reader reports, of a text that
was written into a document, the characters that are written, with these changes; and this is what
the reader of this library finds once line ends are normalized.
-/

namespace ComponentGen.Xml

open Text

/-- The text that is reported of a text in an element: the characters that a document may hold,
with line feeds for line ends. -/
def reportedText (s : String) : String := String.ofList (unixLines (s.toList.filter isAllowed))

/-- The value that is reported of the value of an attribute: as for a text, and with a space for
every blank. -/
def reportedValue (s : String) : String :=
  String.ofList ((unixLines (s.toList.filter isAllowed)).map fun c => if isSpace c then ' ' else c)

@[simp]
theorem toList_reportedText (s : String) :
    (reportedText s).toList = unixLines (s.toList.filter isAllowed) :=
  String.toList_ofList

@[simp]
theorem toList_reportedValue (s : String) :
    (reportedValue s).toList =
      (unixLines (s.toList.filter isAllowed)).map fun c => if isSpace c then ' ' else c :=
  String.toList_ofList

theorem reportedValue_eq (s : String) :
    reportedValue s =
      String.ofList ((reportedText s).toList.map fun c => if isSpace c then ' ' else c) := by
  rw [toList_reportedText]
  rfl

theorem isPlain_reportedText (s : String) : IsPlain (reportedText s).toList := by
  rw [toList_reportedText]
  apply isPlain_unixLines
  intro c member
  exact (List.mem_filter.mp member).2

/-! ## What the reader finds -/

theorem ofText_normalized : LineEnds.normalized.ofText = reportedText :=
  rfl

theorem readBack_reportedText (s : String) : readBack (reportedText s) = reportedText s := by
  have plain := isPlain_reportedText s
  exact readBack_eq_self plain.settled plain.getLast?

theorem LineEnds.readBack_normalized (s : String) :
    LineEnds.normalized.readBack s = reportedText s :=
  readBack_reportedText s

theorem writtenPieces_eq_nil_iff {cs : List Char} (plain : IsPlain cs) :
    writtenPieces cs = [] ↔ cs = [] := by
  constructor
  · intro nothing
    cases cs with
    | nil => rfl
    | cons c rest =>
        rw [writtenPieces_cons] at nothing
        have allowed := plain.2 c (List.mem_cons_self ..)
        cases marked : isMarked c <;> simp [pieceOf?, marked, allowed] at nothing
  · rintro rfl
    rfl

/-- What is found in the element of a text: one text, unless it is empty. -/
theorem textNodes_reportedText (s : String) :
    textNodes (reportedText s) =
      if reportedText s = "" then [] else [.text (reportedText s)] := by
  have nothing : writtenPieces (reportedText s).toList = [] ↔ reportedText s = "" := by
    rw [writtenPieces_eq_nil_iff (isPlain_reportedText s), String.toList_eq_nil_iff]
  by_cases empty : reportedText s = ""
  · rw [textNodes, if_pos (nothing.mpr empty), if_pos empty]
  · rw [textNodes, if_neg (mt nothing.mp empty), if_neg empty, readBack_reportedText]

/-- Without carriage returns, each blank of a value becomes a space by itself. -/
theorem attributeContent_writtenPieces {cs : List Char} (plain : IsPlain cs) :
    attributeContent (writtenPieces cs) = cs.map fun c => if isSpace c then ' ' else c := by
  induction cs with
  | nil => rfl
  | cons c rest ih =>
      have restPlain : IsPlain rest := plain.of_isInfix (List.suffix_cons c rest).isInfix
      have allowed := plain.2 c (List.mem_cons_self ..)
      have ordinary : c ≠ '\r' := by
        rintro rfl
        exact plain.1 (List.mem_cons_self ..)
      rw [writtenPieces_cons, List.map_cons, ← ih restPlain]
      cases marked : isMarked c with
      | true =>
          have noBlank : isSpace c = false := by
            rcases eq_of_isMarked marked with rfl | rfl | rfl | rfl | rfl <;> rfl
          simp [pieceOf?, marked, attributeContent, noBlank]
      | false =>
          simp only [pieceOf?, marked, allowed, if_true, Bool.false_eq_true, if_false,
            Option.toList_some, List.singleton_append]
          rw [attributeContent.eq_def]
          split <;> simp_all

theorem readBackValue_reportedText (s : String) :
    readBackValue (reportedText s) = reportedValue s := by
  rw [readBackValue, attributeContent_writtenPieces (isPlain_reportedText s), reportedValue_eq]

/-! ## Blank texts -/

theorem all_isSpace_unixLines (cs : List Char) :
    (unixLines cs).all Text.isSpace = cs.all Text.isSpace := by
  fun_induction unixLines cs with
  | case1 => rfl
  | case2 rest ih =>
      rw [List.all_cons, ih, List.all_cons, List.all_cons]
      rfl
  | case3 c rest _ ih =>
      by_cases isReturn : c = '\r'
      · subst c
        rw [if_pos rfl, List.all_cons, ih, List.all_cons]
        rfl
      · rw [if_neg isReturn, List.all_cons, ih, List.all_cons]

/-- A text is reported as blank exactly if nothing but white space is written of it. -/
theorem isBlank_reportedText (s : String) :
    isBlank (reportedText s) = (s.toList.filter isAllowed).all Text.isSpace := by
  rw [isBlank, toList_reportedText, all_isSpace_unixLines]

theorem isSpace_blank {c : Char} (blank : isSpace c = true) : Text.isSpace c = true := by
  simp only [isSpace, Bool.or_eq_true, beq_iff_eq] at blank
  rcases blank with ((rfl | rfl) | rfl) | rfl <;> rfl

theorem isBlank_reportedValue (s : String) :
    isBlank (reportedValue s) = (s.toList.filter isAllowed).all Text.isSpace := by
  have each : (Text.isSpace ∘ fun c => if isSpace c then ' ' else c) = Text.isSpace := by
    funext c
    by_cases blank : isSpace c = true
    · simp only [Function.comp_apply, blank, if_true, isSpace_blank blank]
      rfl
    · simp [blank]
  rw [isBlank, toList_reportedValue, List.all_map, each, all_isSpace_unixLines]

/-! ## Lengths -/

theorem length_unixLines_le (cs : List Char) : (unixLines cs).length ≤ cs.length := by
  fun_induction unixLines cs with
  | case1 => simp
  | case2 rest ih => simp only [List.length_cons]; omega
  | case3 c rest _ ih => simp only [List.length_cons]; omega

/-- No value gets longer when it is written and read. -/
theorem length_reportedValue_le (s : String) : (reportedValue s).length ≤ s.length := by
  have kept := length_unixLines_le (s.toList.filter isAllowed)
  have filtered := List.length_filter_le isAllowed s.toList
  rw [← String.length_toList, ← String.length_toList, toList_reportedValue, List.length_map]
  omega

/-- A value without characters that are left out or blanks other than spaces is reported as it
is. -/
theorem reportedValue_eq_self {s : String} (plain : IsPlain s.toList)
    (spaces : ∀ c ∈ s.toList, isSpace c = true → c = ' ') : reportedValue s = s := by
  have all : s.toList.filter isAllowed = s.toList := List.filter_eq_self.mpr plain.2
  have same : ∀ c ∈ s.toList, (if isSpace c then ' ' else c) = c := by
    intro c member
    by_cases blank : isSpace c = true
    · rw [if_pos blank, spaces c member blank]
    · rw [if_neg blank]
  rw [← String.toList_inj, toList_reportedValue, all, plain.unixLines_eq, List.map_congr_left same,
    List.map_id']

end ComponentGen.Xml

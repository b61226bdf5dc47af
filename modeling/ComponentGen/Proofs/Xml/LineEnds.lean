import ComponentGen.Proofs.Xml.WrittenText

/-!
# Line ends between writing and reading

A document may be read as it was written, or with its line ends normalized before anything else
is done with it, as the definition of the format asks.  Either way, a text that was read back
and trimmed is read back without a change when it is written again.
-/

namespace ComponentGen.Xml

open Text

/-! ## Reading back a written text -/

/-- The text that is read back from a written one. -/
def readBack (s : String) : String := String.ofList (textContent (writtenPieces s.toList))

theorem Settled.of_isInfix {part cs : List Char} (settled : Settled cs) (isPart : part <:+: cs) :
    Settled part := by
  rcases isPart with ⟨front, back, rfl⟩
  constructor
  · intro c member
    exact settled.1 c (by simp [member])
  · exact settled.2.left_of_append.right_of_append

theorem settled_readBack (s : String) : Settled (readBack s).toList := by
  rw [readBack, String.toList_ofList, textContent]
  exact settled_textFrom (fun piece member => isWritten_of_mem member) false false rfl

theorem readBack_eq_self {s : String} (settled : Settled s.toList)
    (ends : s.toList.getLast? ≠ some '\r') : readBack s = s := by
  rw [readBack, textContent, textFrom_writtenPieces settled ends, String.ofList_toList]

theorem getLast?_ne_return_of_isTrimmed {cs : List Char} (trimmed : IsTrimmed cs) :
    cs.getLast? ≠ some '\r' := by
  intro last
  exact absurd (trimmed.2 '\r' last) (by decide)

/-- A text that was read back and trimmed is read back without a change. -/
theorem readBack_trim_readBack (s : String) :
    readBack (trim (readBack s)) = trim (readBack s) := by
  apply readBack_eq_self
  · exact (settled_readBack s).of_isInfix (toList_trim_isInfix _)
  · apply getLast?_ne_return_of_isTrimmed
    rw [toList_trim]
    exact isTrimmed_trimRight_trimLeft _

/-! ## Normalized line ends -/

/-- Line ends as line feeds: a carriage return, with or without a line feed behind it, becomes a
line feed. -/
def unixLines : List Char → List Char
  | [] => []
  | '\r' :: '\n' :: rest => '\n' :: unixLines rest
  | c :: rest => (if c = '\r' then '\n' else c) :: unixLines rest

@[simp]
theorem unixLines_nil : unixLines [] = [] :=
  rfl

theorem unixLines_cons_of_ne {c : Char} (ordinary : c ≠ '\r') (rest : List Char) :
    unixLines (c :: rest) = c :: unixLines rest := by
  rw [unixLines.eq_def]
  split <;> simp_all

theorem unixLines_return {rest : List Char} (starts : rest.head? ≠ some '\n') :
    unixLines ('\r' :: rest) = '\n' :: unixLines rest := by
  cases rest with
  | nil => rfl
  | cons c rest =>
      have ordinary : c ≠ '\n' := by simpa using starts
      rw [unixLines.eq_3 _ _ fun rest _ pair => ordinary (List.cons.inj pair).1]
      rfl

theorem unixLines_append_of_not_mem {front : List Char} (absent : '\r' ∉ front)
    (back : List Char) : unixLines (front ++ back) = front ++ unixLines back := by
  induction front with
  | nil => rfl
  | cons c front ih =>
      simp only [List.mem_cons, not_or] at absent
      rw [List.cons_append, unixLines_cons_of_ne (Ne.symm absent.1), ih absent.2]
      rfl

/-- Line ends can be normalized on both sides of a place that is not inside one. -/
theorem unixLines_append {back : List Char} (starts : back.head? ≠ some '\n')
    (front : List Char) : unixLines (front ++ back) = unixLines front ++ unixLines back := by
  fun_induction unixLines front with
  | case1 => rfl
  | case2 rest ih => simp [unixLines, ih]
  | case3 c rest noPair ih =>
      by_cases isReturn : c = '\r'
      · subst c
        have outside : (rest ++ back).head? ≠ some '\n' := by
          cases rest with
          | nil => exact starts
          | cons d rest =>
              intro pair
              exact noPair rest rfl (by simp_all)
        rw [List.cons_append, unixLines_return outside, ih]
        rfl
      · rw [List.cons_append, unixLines_cons_of_ne isReturn, ih]
        simp [isReturn]

theorem mem_unixLines {cs : List Char} {c : Char} (member : c ∈ unixLines cs) :
    c ≠ '\r' ∧ (c = '\n' ∨ c ∈ cs) := by
  fun_induction unixLines cs with
  | case1 => cases member
  | case2 rest ih =>
      rcases List.mem_cons.mp member with rfl | member
      · exact ⟨by decide, .inl rfl⟩
      · exact ⟨(ih member).1, (ih member).2.imp_right fun found => by simp [found]⟩
  | case3 d rest _ ih =>
      rcases List.mem_cons.mp member with rfl | member
      · by_cases isReturn : d = '\r' <;> simp [isReturn]
      · exact ⟨(ih member).1, (ih member).2.imp_right fun found => by simp [found]⟩

theorem flatMap_escape_filter (cs : List Char) :
    (cs.filter isAllowed).flatMap escape = cs.flatMap escape := by
  induction cs with
  | nil => rfl
  | cons c cs ih =>
      cases allowed : isAllowed c with
      | true => simp [allowed, ih]
      | false =>
          have plain : isMarked c = false := by
            cases marked : isMarked c with
            | false => rfl
            | true => simp [isAllowed_of_isMarked marked] at allowed
          simp [allowed, ih, escape_of_not_isMarked plain]

theorem head?_escape {c : Char} (allowed : isAllowed c = true) (ordinary : c ≠ '\n')
    (rest : List Char) : (escape c ++ rest).head? ≠ some '\n' := by
  cases marked : isMarked c with
  | true =>
      rcases eq_of_isMarked marked with rfl | rfl | rfl | rfl | rfl <;>
        exact fun same => absurd (Option.some.inj same) (by decide)
  | false => simpa [escape_of_not_isMarked marked, allowed] using ordinary

theorem return_not_mem_escape {c : Char} (ordinary : c ≠ '\r') : '\r' ∉ escape c := by
  cases marked : isMarked c with
  | true =>
      rcases eq_of_isMarked marked with rfl | rfl | rfl | rfl | rfl <;> decide
  | false =>
      rw [escape_of_not_isMarked marked]
      cases isAllowed c <;> simp [Ne.symm ordinary]

/-- The line ends of a written text are those of the text itself, without the characters that
are not written. -/
theorem unixLines_flatMap_escape {cs : List Char} (allowed : ∀ c ∈ cs, isAllowed c = true) :
    unixLines (cs.flatMap escape) = (unixLines cs).flatMap escape := by
  fun_induction unixLines cs with
  | case1 => rfl
  | case2 rest ih =>
      have later := ih fun c member => allowed c (by simp [member])
      change unixLines ('\r' :: '\n' :: rest.flatMap escape) = _
      rw [unixLines, later]
      rfl
  | case3 c rest noPair ih =>
      have later := ih fun d member => allowed d (List.mem_cons_of_mem c member)
      by_cases isReturn : c = '\r'
      · subst c
        have outside : (rest.flatMap escape).head? ≠ some '\n' := by
          cases rest with
          | nil => simp
          | cons d rest =>
              have ordinary : d ≠ '\n' := by
                rintro rfl
                exact noPair rest rfl rfl
              rw [List.flatMap_cons]
              exact head?_escape (allowed d (by simp)) ordinary _
        change unixLines ('\r' :: rest.flatMap escape) = _
        rw [unixLines_return outside, later]
        rfl
      · rw [List.flatMap_cons, unixLines_append_of_not_mem (return_not_mem_escape isReturn), later,
          List.flatMap_cons, if_neg isReturn]

/-! ## The two ways of reading -/

/-- What is done with the line ends of a document before it is read. -/
inductive LineEnds where
  | asWritten
  | normalized
  deriving Repr, DecidableEq

namespace LineEnds

/-- The document that is read. -/
def ofDocument : LineEnds → String → String
  | asWritten, s => s
  | normalized, s => String.ofList (unixLines s.toList)

/-- What becomes of a text in a document. -/
def ofText : LineEnds → String → String
  | asWritten, s => s
  | normalized, s => String.ofList (unixLines (s.toList.filter isAllowed))

/-- The text that is read back from a written one. -/
def readBack (ends : LineEnds) (s : String) : String := Xml.readBack (ends.ofText s)

theorem unixLines_escaped (s : String) :
    unixLines (escaped s) = escaped (normalized.ofText s) := by
  have allowed : ∀ c ∈ s.toList.filter isAllowed, isAllowed c = true := fun c member =>
    (List.mem_filter.mp member).2
  rw [escaped, ← flatMap_escape_filter, unixLines_flatMap_escape allowed, escaped, ofText,
    String.toList_ofList]

end LineEnds

/-- Text without carriage returns and without characters that are not written. -/
def IsPlain (cs : List Char) : Prop := '\r' ∉ cs ∧ ∀ c ∈ cs, isAllowed c = true

theorem IsPlain.of_isInfix {part cs : List Char} (plain : IsPlain cs) (isPart : part <:+: cs) :
    IsPlain part :=
  ⟨fun member => plain.1 (isPart.subset member), fun c member => plain.2 c (isPart.subset member)⟩

theorem isPlain_unixLines {cs : List Char} (allowed : ∀ c ∈ cs, isAllowed c = true) :
    IsPlain (unixLines cs) := by
  constructor
  · intro member
    exact (mem_unixLines member).1 rfl
  · intro c member
    rcases (mem_unixLines member).2 with rfl | found
    · rfl
    · exact allowed c found

theorem IsPlain.settled {cs : List Char} (plain : IsPlain cs) : Settled cs := by
  induction cs with
  | nil => exact ⟨by simp, .nil⟩
  | cons c rest ih =>
      have ordinary : c ≠ '\r' := by
        rintro rfl
        exact plain.1 (List.mem_cons_self ..)
      have restPlain : IsPlain rest := plain.of_isInfix (List.suffix_cons c rest).isInfix
      exact settled_cons (plain.2 c (List.mem_cons_self ..)) ordinary (ih restPlain)

theorem IsPlain.getLast? {cs : List Char} (plain : IsPlain cs) : cs.getLast? ≠ some '\r' := by
  intro last
  exact plain.1 (List.mem_of_getLast? last)

theorem IsPlain.unixLines_eq {cs : List Char} (plain : IsPlain cs) : unixLines cs = cs := by
  have same := unixLines_append_of_not_mem plain.1 []
  simpa using same

namespace LineEnds

theorem ofText_eq_self (ends : LineEnds) {s : String} (plain : IsPlain s.toList) :
    ends.ofText s = s := by
  cases ends with
  | asWritten => rfl
  | normalized =>
      have all : s.toList.filter isAllowed = s.toList := List.filter_eq_self.mpr plain.2
      rw [ofText, all, plain.unixLines_eq, String.ofList_toList]

/-- Plain text is read back without a change. -/
theorem readBack_eq_self (ends : LineEnds) {s : String} (plain : IsPlain s.toList) :
    ends.readBack s = s := by
  rw [readBack, ends.ofText_eq_self plain]
  exact Xml.readBack_eq_self plain.settled plain.getLast?

/-- A text that was read back and trimmed is read back without a change. -/
theorem readBack_trim_readBack (ends : LineEnds) (s : String) :
    ends.readBack (trim (ends.readBack s)) = trim (ends.readBack s) := by
  cases ends with
  | asWritten => exact Xml.readBack_trim_readBack s
  | normalized =>
      have plain : IsPlain (normalized.ofText s).toList := by
        rw [ofText, String.toList_ofList]
        exact isPlain_unixLines fun c member => (List.mem_filter.mp member).2
      have same : normalized.readBack s = normalized.ofText s :=
        Xml.readBack_eq_self plain.settled plain.getLast?
      rw [same]
      exact readBack_eq_self normalized (plain.of_isInfix (toList_trim_isInfix _))

end LineEnds

end ComponentGen.Xml

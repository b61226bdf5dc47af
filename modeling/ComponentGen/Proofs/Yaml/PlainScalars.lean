import ComponentGen.Proofs.Yaml.Lines

/-!
# Plain scalars read back

A plain scalar of one line is read as its characters.  Blanks inside it are held back until the
next character shows that they count; no colon and no comment sign in it stands where it would end
the scalar.
-/

namespace ComponentGen.Yaml

variable {floor : Nat} {p : Position}

/-- A line that a plain scalar can be. -/
structure IsPlainLine (cs : List Char) : Prop where
  starts : startsPlain false cs = true
  noBreak : ∀ c ∈ cs, isBreak c = false
  noTab : '\t' ∉ cs
  noMark : hasInnerMark cs = false
  noSpace : endsWithSpace cs = false

theorem startsBlank_append {cs : List Char} (goesOn : cs ≠ []) (tail : List Char) :
    startsBlank (cs ++ tail) = startsBlank cs := by
  cases cs with
  | nil => exact absurd rfl goesOn
  | cons c rest => rfl

theorem isBlank_eq_false {c : Char} (noSpace : c ≠ ' ') (noTab : c ≠ '\t') :
    isBlank c = false := by
  simp [isBlank, noSpace, noTab]

/-! ## Steps of the reader -/

section Steps

variable {held : Held} {c : Char} {cs : List Char}

theorem readPlain_space :
    readPlain false floor held p (' ' :: cs) =
      readPlain false floor (held.addBlank ' ') (p.move 1) cs := by
  rw [readPlain]
  · rfl
  · exact fun _ same => absurd same (by decide)

theorem readPlain_stop (noBreak : isBreak c = false) (noBlank : isBlank c = false)
    (ends : endsPlain false floor held p (c :: cs) = true) :
    readPlain false floor held p (c :: cs) = some ([], held.broken, p, c :: cs) := by
  have noReturn := ne_return_of_isBreak_eq_false noBreak
  rw [readPlain, noBreak, noBlank, ends]
  · rfl
  · exact fun _ same => absurd same noReturn

theorem readPlain_char (noBreak : isBreak c = false) (noBlank : isBlank c = false)
    (goesOn : endsPlain false floor held p (c :: cs) = false) :
    readPlain false floor held p (c :: cs) =
      (readPlain false floor {} (p.move 1) cs).map fun t => (held.folded ++ c :: t.1, t.2) := by
  have noReturn := ne_return_of_isBreak_eq_false noBreak
  have noStray : isStrayColon false (c :: cs) = false := by
    unfold isStrayColon
    split <;> rfl
  rw [readPlain, noBreak, noBlank, goesOn, noStray]
  · rfl
  · exact fun _ same => absurd same noReturn

theorem readPlain_margin (broken : held.broken = true) (k : Nat) :
    readPlain false floor held p (margin k ++ cs) =
      readPlain false floor held (p.move k) cs := by
  induction k generalizing p with
  | zero => rfl
  | succ k ih =>
      have same : held.addBlank ' ' = held := by rw [Held.addBlank, if_pos broken]
      rw [margin_succ, List.cons_append, readPlain_space, same, ih, Position.move_move,
        Nat.add_comm]

end Steps

/-! ## Lines -/

/-- A character behind `prev` that is no mark there does not end the scalar.  `blanks` are the
blanks that are held back in front of it. -/
theorem endsPlain_eq_false {prev c : Char} {blanks cs : List Char} (tail : List Char)
    (noColon : (c == ':' && startsBlank cs) = false)
    (noComment : (c == '#' && (isBlank prev || isBreak prev)) = false)
    (held : blanks ≠ [] → prev = ' ') (inside : 0 < p.column) :
    endsPlain false floor { blanks } p (c :: (cs ++ tail)) = false := by
  have column := Position.column_beq_zero inside
  have comment : (c == '#' && ({ blanks } : Held) != {}) = false := by
    cases blanks with
    | nil => simp
    | cons blank blanks =>
        rw [held (by simp)] at noComment
        simpa [isBlank] using noComment
  have colon : (c == ':' && startsBlank (cs ++ tail)) = false := by
    cases cs with
    | nil =>
        have other : c ≠ ':' := by simpa [startsBlank] using noColon
        simp [other]
    | cons d cs => exact noColon
  simp [endsPlain, column, comment, colon]

/-- The characters of a line are taken one by one.  `prev` is the character in front of them and
`blanks` are the blanks that are held back there. -/
theorem readPlain_append {prev : Char} {blanks cs : List Char} (tail : List Char)
    (noBreak : ∀ c ∈ cs, isBreak c = false) (noTab : '\t' ∉ cs)
    (noMark : hasInnerMark (prev :: cs) = false) (noSpace : endsWithSpace (prev :: cs) = false)
    (held : blanks ≠ [] → prev = ' ') (inside : 0 < p.column) :
    readPlain false floor { blanks } p (cs ++ tail) =
      (readPlain false floor {} (p.move cs.length) tail).map fun t =>
        (blanks ++ cs ++ t.1, t.2) := by
  induction cs generalizing prev blanks p with
  | nil =>
      cases blanks with
      | nil => simp
      | cons blank blanks =>
          rw [held (by simp)] at noSpace
          exact absurd noSpace (by decide)
  | cons c cs ih =>
      simp only [hasInnerMark, Bool.or_eq_false_iff] at noMark
      obtain ⟨⟨noColon, noComment⟩, noMark⟩ := noMark
      have goOn (blanks' : List Char) (held' : blanks' ≠ [] → c = ' ') :=
        @ih (p.move 1) c blanks' (fun d member => noBreak d (List.mem_cons_of_mem c member))
          (fun member => noTab (List.mem_cons_of_mem c member)) noMark noSpace held'
          (Nat.succ_pos _)
      by_cases space : c = ' '
      · subst space
        have wait : Held.addBlank { blanks } ' ' = { blanks := blanks ++ [' '] } := rfl
        rw [List.cons_append, readPlain_space, wait, goOn _ fun _ => rfl]
        simp [Nat.add_comm]
      · have noTab' : c ≠ '\t' := fun same => noTab (same ▸ List.mem_cons_self ..)
        have goesOn : endsPlain false floor { blanks } p (c :: (cs ++ tail)) = false :=
          endsPlain_eq_false tail noColon noComment held inside
        rw [List.cons_append, readPlain_char (noBreak c (List.mem_cons_self ..))
          (isBlank_eq_false space noTab') goesOn, goOn [] (fun absurd => (absurd rfl).elim)]
        simp [Held.folded, Nat.add_comm, Function.comp_def]

/-- The characters that start something else than a plain scalar. -/
def indicators : List Char :=
  [',', '[', ']', '\x7b', '\x7d', '#', '&', '*', '!', '|', '>', '\'', '"', '%', '@', '\x60']

/-- The first character of a line is neither white space nor an indicator, unless it is one that
only counts in front of a blank. -/
structure IsPlainStart (c : Char) (rest : List Char) : Prop where
  noBlank : isBlank c = false
  noBreak : isBreak c = false
  noIndicator : c ∉ indicators
  goesOn : c = '-' ∨ c = '?' ∨ c = ':' → startsBlank rest = false

theorem isPlainStart_of_startsPlain {c : Char} {rest : List Char}
    (starts : startsPlain false (c :: rest) = true) : IsPlainStart c rest := by
  rw [startsPlain] at starts
  split at starts
  case isTrue => cases starts
  case isFalse word =>
    simp only [Bool.or_eq_true, not_or, Bool.not_eq_true] at word
    by_cases dash : c = '-'
    · subst dash
      exact ⟨word.1, word.2, by decide, fun _ => by simpa using starts⟩
    · by_cases mark : c = '?' ∨ c = ':'
      · refine ⟨word.1, word.2, ?_, fun _ => by simpa [dash, mark] using starts⟩
        rcases mark with rfl | rfl <;> decide
      · rw [not_or] at mark
        refine ⟨word.1, word.2, ?_, fun marked => ?_⟩
        · simpa [dash, mark, indicators] using starts
        · rcases marked with same | same | same
          · exact absurd same dash
          · exact absurd same mark.1
          · exact absurd same mark.2

/-- A plain scalar that starts does so whatever follows. -/
theorem startsPlain_append {cs : List Char} (starts : startsPlain false cs = true)
    (tail : List Char) : startsPlain false (cs ++ tail) = true := by
  cases cs with
  | nil => exact absurd starts (by decide)
  | cons c rest =>
      have start := isPlainStart_of_startsPlain starts
      by_cases mark : c = '-' ∨ c = '?' ∨ c = ':'
      · have more : rest ≠ [] := by
          rintro rfl
          exact absurd (start.goesOn mark) (by decide)
        have same : startsBlank (rest ++ tail) = startsBlank rest := startsBlank_append more tail
        rw [startsPlain] at starts
        rwa [List.cons_append, startsPlain, same]
      · rw [not_or, not_or] at mark
        rw [startsPlain] at starts
        rw [List.cons_append, startsPlain]
        simpa [mark] using starts

theorem head?_ne_of_startsPlain {cs : List Char} (starts : startsPlain false cs = true) {d : Char}
    (indicator : d ∈ indicators) (tail : List Char) : (cs ++ tail).head? ≠ some d := by
  cases cs with
  | nil => exact absurd starts (by decide)
  | cons c rest =>
      have other : c ≠ d := by
        rintro rfl
        exact (isPlainStart_of_startsPlain starts).noIndicator indicator
      simpa using other

theorem IsPlainLine.exists_cons {cs : List Char} (line : IsPlainLine cs) :
    ∃ c rest, cs = c :: rest ∧ IsContentStart c := by
  cases cs with
  | nil => exact absurd line.starts (by decide)
  | cons c rest =>
      have start := isPlainStart_of_startsPlain line.starts
      refine ⟨c, rest, rfl, start.noBlank, start.noBreak, ?_⟩
      rintro rfl
      exact start.noIndicator (by decide)

/-- A line is read up to what follows it. -/
theorem IsPlainLine.readPlain {cs : List Char} (line : IsPlainLine cs) (tail : List Char)
    (noMark : (p.column == 0 && startsMark (cs ++ tail)) = false) :
    readPlain false floor {} p (cs ++ tail) =
      (readPlain false floor {} (p.move cs.length) tail).map fun t => (cs ++ t.1, t.2) := by
  obtain ⟨starts, noBreak, noTab, noInnerMark, noSpace⟩ := line
  cases cs with
  | nil => exact absurd starts (by decide)
  | cons c cs =>
      have start := isPlainStart_of_startsPlain starts
      have noColon : (c == ':' && startsBlank (cs ++ tail)) = false := by
        by_cases same : c = ':'
        · have goesOn : cs ≠ [] := by
            rintro rfl
            exact absurd (start.goesOn (.inr (.inr same))) (by decide)
          rw [startsBlank_append goesOn, start.goesOn (.inr (.inr same)), Bool.and_false]
        · simp [same]
      have goesOn : endsPlain false floor {} p (c :: (cs ++ tail)) = false := by
        rw [List.cons_append] at noMark
        simp [endsPlain, noMark, noColon]
      rw [List.cons_append, readPlain_char start.noBreak start.noBlank goesOn,
        readPlain_append tail (fun d member => noBreak d (List.mem_cons_of_mem c member))
          (fun member => noTab (List.mem_cons_of_mem c member)) noInnerMark noSpace
          (fun absurd => (absurd rfl).elim) (Nat.succ_pos _)]
      simp [Held.folded, Nat.add_comm, Function.comp_def]

/-- A plain scalar ends with its line if no more of it can follow: what follows starts in front of
the least column. -/
theorem readPlain_newLine {k : Nat} {next : List Char} (token : StartsToken next)
    (left : k < floor) :
    readPlain false floor {} p ('\n' :: (margin k ++ next)) =
      some ([], true, (p.nextLine 1).move k, next) := by
  have line : readPlain false floor {} p ('\n' :: (margin k ++ next)) =
      readPlain false floor { broken := true, firstBreak := ['\n'] } (p.nextLine 1)
        (margin k ++ next) := by
    rw [readPlain]
    · rfl
    · exact fun _ same => absurd same (by decide)
  rw [line, readPlain_margin rfl]
  cases next with
  | nil => rfl
  | cons c rest =>
      have start := token.isTokenStart
      rw [readPlain_stop start.noBreak start.noBlank (by simp [endsPlain, left])]

/-- A key is read up to its colon. -/
theorem readPlain_colon {rest : List Char} (blank : startsBlank rest = true) :
    readPlain false floor {} p (':' :: rest) = some ([], false, p, ':' :: rest) :=
  readPlain_stop rfl rfl (by simp [endsPlain, blank])

/-! ## Which texts are such lines -/

theorem isPlainLine_of_fitsPlain {cs : List Char} (fits : fitsPlain cs = true) :
    IsPlainLine cs := by
  simp only [fitsPlain, keepsCharacters, Bool.and_eq_true, Bool.not_eq_true', List.all_eq_true,
    List.any_eq_false] at fits
  obtain ⟨⟨⟨⟨⟨⟨printable, -⟩, starts⟩, -⟩, noMark⟩, noSpace⟩, noBreak⟩ := fits
  refine ⟨starts, fun c member => by simpa using noBreak c member, ?_, noMark, noSpace⟩
  intro tab
  exact absurd (printable _ tab) (by decide)

/-- The characters of words and numbers end no scalar. -/
theorem isPlainLine_of_isWordChar {cs : List Char} (word : ∀ c ∈ cs, isWordChar c = true)
    (starts : startsPlain false cs = true) : IsPlainLine cs := by
  have other {d : Char} (noWord : isWordChar d = false) : d ∉ cs := by
    intro member
    rw [word d member] at noWord
    cases noWord
  refine ⟨starts, ?_, other (by decide), ?_, ?_⟩
  · intro c member
    cases ends : isBreak c with
    | false => rfl
    | true =>
        simp only [isBreak, Bool.or_eq_true, beq_iff_eq] at ends
        rcases ends with (((rfl | rfl) | rfl) | rfl) | rfl <;>
          exact absurd (word _ member) (by decide)
  · have colon : ':' ∉ cs := other (by decide)
    have comment : '#' ∉ cs := other (by decide)
    clear word starts other
    induction cs with
    | nil => rfl
    | cons c cs ih =>
        cases cs with
        | nil => rfl
        | cons d cs =>
            have later := ih (fun member => colon (List.mem_cons_of_mem c member))
              fun member => comment (List.mem_cons_of_mem c member)
            have noColon : d ≠ ':' := by
              rintro rfl
              exact colon (by simp)
            have noComment : d ≠ '#' := by
              rintro rfl
              exact comment (by simp)
            simp [hasInnerMark, later, noColon, noComment]
  · have space : ' ' ∉ cs := other (by decide)
    rw [endsWithSpace, beq_eq_false_iff_ne]
    exact fun last => space (List.mem_of_getLast? last)

/-- A letter or digit starts a plain scalar. -/
theorem startsPlain_of_isAlphanum {c : Char} (word : c.isAlphanum = true) (rest : List Char) :
    startsPlain false (c :: rest) = true := by
  have other {d : Char} (noWord : d.isAlphanum = false) : c ≠ d := by
    rintro rfl
    rw [word] at noWord
    cases noWord
  have noBlank : isBlank c = false := isBlank_eq_false (other (by decide)) (other (by decide))
  have noBreak : isBreak c = false := by
    simp [isBreak, other (show '\n'.isAlphanum = false by decide),
      other (show '\r'.isAlphanum = false by decide),
      other (show '\x85'.isAlphanum = false by decide),
      other (show '\u2028'.isAlphanum = false by decide),
      other (show '\u2029'.isAlphanum = false by decide)]
  have notListed {ds : List Char} (others : ds.all (fun d => !d.isAlphanum) = true) :
      ds.contains c = false := by
    cases listed : ds.contains c with
    | false => rfl
    | true =>
        have noWord := List.all_eq_true.mp others c (List.contains_iff_mem.mp listed)
        simp [word] at noWord
  have dash : c ≠ '-' := other (by decide)
  have query : c ≠ '?' := other (by decide)
  have colon : c ≠ ':' := other (by decide)
  rw [startsPlain, noBlank, noBreak, notListed (by decide)]
  simp [dash, query, colon]

theorem isPlainLine_of_isAlpha {cs : List Char} (some_letter : cs ≠ [])
    (letters : ∀ c ∈ cs, c.isAlpha = true) : IsPlainLine cs := by
  cases cs with
  | nil => exact absurd rfl some_letter
  | cons c cs =>
      apply isPlainLine_of_isWordChar
      · intro d member
        simp [isWordChar, Char.isAlphanum, letters d member]
      · apply startsPlain_of_isAlphanum
        simp [Char.isAlphanum, letters c (List.mem_cons_self ..)]

theorem isPrintable_of_isAlpha {c : Char} (letter : c.isAlpha = true) :
    isPrintable c = true := by
  have range : (65 ≤ c.toNat ∧ c.toNat ≤ 90) ∨ (97 ≤ c.toNat ∧ c.toNat ≤ 122) := by
    rcases (Bool.or_eq_true c.isUpper c.isLower).mp letter with upper | lower
    · exact .inl (of_decide_eq_true upper)
    · exact .inr ((Bool.and_eq_true ..).mp lower |>.imp of_decide_eq_true of_decide_eq_true)
  have ascii : 0x20 ≤ c.toNat ∧ c.toNat ≤ 0x7E := by omega
  simp [isPrintable, ascii]

theorem hasNeighbours_eq_false {first second : Char → Bool} {cs : List Char}
    (none : ∀ c ∈ cs, first c = false) : hasNeighbours first second cs = false := by
  induction cs with
  | nil => rfl
  | cons c cs ih =>
      cases cs with
      | nil => rfl
      | cons d cs =>
          rw [hasNeighbours, none c (List.mem_cons_self ..), Bool.false_and, Bool.false_or]
          exact ih fun e member => none e (List.mem_cons_of_mem c member)

/-- Letters may be written without quotes. -/
theorem fitsPlain_of_isAlpha {cs : List Char} (some_letter : cs ≠ [])
    (letters : ∀ c ∈ cs, c.isAlpha = true) : fitsPlain cs = true := by
  have line := isPlainLine_of_isAlpha some_letter letters
  have printable : cs.all isPrintable = true :=
    List.all_eq_true.mpr fun c member => isPrintable_of_isAlpha (letters c member)
  have neighbours : hasNeighbours (· == ' ') isBreak cs = false :=
    hasNeighbours_eq_false fun c member => by
      simpa using ne_of_isAlpha (letters c member) (by decide)
  have noBreak : cs.any isBreak = false := by simpa using line.noBreak
  have noMark : startsLikeMark cs = false := by
    cases cs with
    | nil => rfl
    | cons c rest =>
        have letter := letters c (List.mem_cons_self ..)
        unfold startsLikeMark
        split
        case h_1 same =>
          cases same
          exact absurd letter (by decide)
        case h_2 same =>
          cases same
          exact absurd letter (by decide)
        case h_3 => rfl
  simp [fitsPlain, keepsCharacters, printable, neighbours, line.starts, noMark, line.noMark,
    line.noSpace, noBreak]

end ComponentGen.Yaml

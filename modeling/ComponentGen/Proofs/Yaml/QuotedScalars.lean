import ComponentGen.Proofs.Yaml.PlainScalars

/-!
# Quoted scalars read back

In double quotes everything that is not an ordinary character is escaped, so the text stays on
one line.  In single quotes the separators of lines and paragraphs stand for themselves, at the
ends of lines whose margins are passed over.
-/

namespace ComponentGen.Yaml

open Number

/-! ## Hexadecimal escapes -/

theorem continueNat?_append (base acc : Nat) (front back : List Char) :
    continueNat? base acc (front ++ back) =
      (continueNat? base acc front).bind fun n => continueNat? base n back := by
  induction front generalizing acc with
  | nil => rfl
  | cons c front ih =>
      rw [List.cons_append, continueNat?, continueNat?]
      split
      · exact ih _
      · rfl

theorem digitValue_upperHexDigit : ∀ n < 16, digitValue (upperHexDigit n) = n := by
  decide

theorem continueNat?_hexText (acc digits n : Nat) :
    continueNat? 16 acc (hexText digits n) =
      some (acc * Nat.pow 16 digits + n % Nat.pow 16 digits) := by
  induction digits generalizing n with
  | zero => simp [hexText, continueNat?, Nat.mod_one]
  | succ digits ih =>
      have last := digitValue_upperHexDigit (n % 16) (Nat.mod_lt n (by decide))
      have power : Nat.pow 16 (digits + 1) = 16 * Nat.pow 16 digits := Nat.mul_comm _ _
      have parts : n % (16 * Nat.pow 16 digits) = n % 16 + 16 * (n / 16 % Nat.pow 16 digits) :=
        Nat.mod_mul
      rw [hexText, continueNat?_append, ih, Option.bind_some, continueNat?, last,
        if_pos (Nat.mod_lt n (by decide)), continueNat?, power, parts,
        Nat.add_mul, Nat.mul_assoc, Nat.mul_comm (Nat.pow 16 digits) 16]
      congr 1
      omega

/-- A character is read from as many digits as its code needs. -/
theorem codePoint?_hexText {digits : Nat} (c : Char) (fits : c.toNat < Nat.pow 16 digits)
    (some_digit : hexText digits c.toNat ≠ []) : codePoint? (hexText digits c.toNat) = some c := by
  have code : natOfDigits? 16 (hexText digits c.toNat) = some c.toNat := by
    rw [natOfDigits?, if_neg (by simpa using some_digit), continueNat?_hexText, Nat.zero_mul,
      Nat.zero_add, Nat.mod_eq_of_lt fits]
  have valid : c.toNat.isValidChar := c.valid
  rw [codePoint?, code, Option.bind_some, if_pos valid, Char.ofNat_toNat]

/-! ## Double quotes -/

variable {held : Held} {p : Position}

/-- A printable character that is no line end is no control character either. -/
theorem ne_of_isPrintable {c d : Char} (printable : isPrintable c = true)
    (control : isPrintable d = false) : c ≠ d := by
  rintro rfl
  rw [printable] at control
  cases control

/-- An ordinary character in double quotes. -/
theorem readDoubleQuoted_char {c : Char} (printable : isPrintable c = true)
    (noBreak : isBreak c = false) (noQuote : c ≠ '"') (noBackslash : c ≠ '\\')
    (noSpace : c ≠ ' ') (inside : 0 < p.column) (rest : List Char) :
    readDoubleQuoted held p (c :: rest) =
      (readDoubleQuoted {} (p.move 1) rest).map fun t => (held.folded ++ c :: t.1, t.2) := by
  have noReturn : c ≠ '\r' := ne_of_isPrintable printable (by decide)
  have noBlank := isBlank_eq_false noSpace (ne_of_isPrintable printable (by decide))
  have column := Position.column_beq_zero inside
  rw [readDoubleQuoted, noBreak, noBlank, column]
  · simp [noQuote]
  · exact fun _ same => absurd same noReturn
  all_goals
    intros
    exact absurd ‹c = '\\'› noBackslash

/-- A character that is escaped by its code. -/
theorem readDoubleQuoted_code (c : Char) (rest : List Char) :
    readDoubleQuoted held p
        ('\\' :: (if c.toNat ≤ 0xFF then 'x' :: hexText 2 c.toNat
          else if c.toNat ≤ 0xFFFF then 'u' :: hexText 4 c.toNat
          else 'U' :: hexText 8 c.toNat) ++ rest) =
      (readDoubleQuoted {} (p.move ('\\' :: (if c.toNat ≤ 0xFF then 'x' :: hexText 2 c.toNat
          else if c.toNat ≤ 0xFFFF then 'u' :: hexText 4 c.toNat
          else 'U' :: hexText 8 c.toNat)).length) rest).map fun t =>
        (held.folded ++ c :: t.1, t.2) := by
  have bounds : Nat.pow 16 2 = 0x100 ∧ Nat.pow 16 4 = 0x10000 ∧ Nat.pow 16 8 = 0x100000000 :=
    ⟨rfl, rfl, rfl⟩
  split
  · have code := @codePoint?_hexText 2 c (by omega) (by simp [hexText])
    simp only [hexText, List.nil_append, List.cons_append] at code ⊢
    rw [readDoubleQuoted, code]
    rfl
  · split
    · have code := @codePoint?_hexText 4 c (by omega) (by simp [hexText])
      simp only [hexText, List.nil_append, List.cons_append] at code ⊢
      rw [readDoubleQuoted, code]
      rfl
    · have within : c.toNat < 0x110000 := by
        have valid : c.toNat.isValidChar := c.valid
        rcases valid with low | high <;> omega
      have code := @codePoint?_hexText 8 c (by omega) (by simp [hexText])
      simp only [hexText, List.nil_append, List.cons_append] at code ⊢
      rw [readDoubleQuoted, code]
      rfl

/-- An escaped character in double quotes. -/
theorem readDoubleQuoted_escape {c : Char}
    (escaped : ¬(isPrintable c && !isBreak c && c != '"' && c != '\\') = true)
    (rest : List Char) :
    readDoubleQuoted held p (escape c ++ rest) =
      (readDoubleQuoted {} (p.move (escape c).length) rest).map fun t =>
        (held.folded ++ c :: t.1, t.2) := by
  unfold escape
  rw [if_neg escaped]
  split
  case h_15 => exact readDoubleQuoted_code c rest
  all_goals simp [readDoubleQuoted, escaped?, isBreak]

theorem readDoubleQuoted_space (rest : List Char) :
    readDoubleQuoted held p (' ' :: rest) =
      readDoubleQuoted (held.addBlank ' ') (p.move 1) rest := by
  rw [readDoubleQuoted]
  · rfl
  all_goals
    intros
    exact absurd ‹ ' ' = _› (by decide)

theorem readDoubleQuoted_quote (inside : 0 < p.column) (rest : List Char) :
    readDoubleQuoted held p ('"' :: rest) = some (held.folded, p.move 1, rest) := by
  have column := Position.column_beq_zero inside
  rw [readDoubleQuoted, column]
  · rfl
  all_goals
    intros
    exact absurd ‹ '"' = _› (by decide)

/-- A text in double quotes is read back.  `blanks` are the blanks held back in front of it. -/
theorem readDoubleQuoted_append (blanks cs rest : List Char) (inside : 0 < p.column) :
    readDoubleQuoted { blanks } p (cs.flatMap escape ++ '"' :: rest) =
      some (blanks ++ cs, p.move ((cs.flatMap escape).length + 1), rest) := by
  induction cs generalizing blanks p with
  | nil => simp [readDoubleQuoted_quote inside, Held.folded]
  | cons c cs ih =>
      rw [List.flatMap_cons, List.append_assoc]
      by_cases ordinary : (isPrintable c && !isBreak c && c != '"' && c != '\\') = true
      · have same : escape c = [c] := if_pos ordinary
        simp only [Bool.and_eq_true, Bool.not_eq_true', bne_iff_ne] at ordinary
        obtain ⟨⟨⟨printable, noBreak⟩, noQuote⟩, noBackslash⟩ := ordinary
        rw [same, List.singleton_append]
        by_cases space : c = ' '
        · subst space
          have wait : Held.addBlank { blanks } ' ' = { blanks := blanks ++ [' '] } := rfl
          rw [readDoubleQuoted_space, wait, ih _ (Nat.succ_pos _)]
          simp [Nat.add_comm]
        · rw [readDoubleQuoted_char printable noBreak noQuote noBackslash space inside,
            ih _ (Nat.succ_pos _)]
          simp [Held.folded, Nat.add_comm]
      · have longer : 0 < (escape c).length := by
          unfold escape
          rw [if_neg ordinary]
          exact Nat.succ_pos _
        rw [readDoubleQuoted_escape ordinary, ih _ (by rw [Position.column_move]; omega)]
        simp [Held.folded, Nat.add_assoc]

/-! ## Single quotes -/

section SingleQuotes

variable {c : Char} {rest : List Char}

/-- The rule for a character that is no carriage return. -/
theorem readSingleQuoted_cons (noReturn : c ≠ '\r') :
    readSingleQuoted held p (c :: rest) =
      if isBreak c then readSingleQuoted (held.addBreak (breakContent c)) (p.nextLine 1) rest
      else if isBlank c then readSingleQuoted (held.addBlank c) (p.move 1) rest
      else if p.column == 0 && startsMark (c :: rest) then none
      else if c == '\'' then
        match rest with
        | '\'' :: more =>
            (readSingleQuoted {} (p.move 2) more).map fun tail =>
              (held.folded ++ '\'' :: tail.1, tail.2)
        | _ => some (held.folded, p.move 1, rest)
      else (readSingleQuoted {} (p.move 1) rest).map fun tail =>
        (held.folded ++ c :: tail.1, tail.2) := by
  rw [readSingleQuoted.eq_def]
  split
  case h_1 none => cases none
  case h_2 same => exact absurd (List.cons.inj same).1 noReturn
  case h_3 same =>
    cases same
    rfl

theorem readSingleQuoted_break (noReturn : c ≠ '\r') (ends : isBreak c = true) :
    readSingleQuoted held p (c :: rest) =
      readSingleQuoted (held.addBreak (breakContent c)) (p.nextLine 1) rest := by
  rw [readSingleQuoted_cons noReturn, if_pos ends]

theorem readSingleQuoted_space :
    readSingleQuoted held p (' ' :: rest) =
      readSingleQuoted (held.addBlank ' ') (p.move 1) rest := by
  rw [readSingleQuoted_cons (by decide)]
  rfl

theorem readSingleQuoted_margin (broken : held.broken = true) (k : Nat) :
    readSingleQuoted held p (margin k ++ rest) = readSingleQuoted held (p.move k) rest := by
  induction k generalizing p with
  | zero => rfl
  | succ k ih =>
      have same : held.addBlank ' ' = held := by rw [Held.addBlank, if_pos broken]
      rw [margin_succ, List.cons_append, readSingleQuoted_space, same, ih, Position.move_move,
        Nat.add_comm]

theorem readSingleQuoted_char (noBreak : isBreak c = false) (noBlank : isBlank c = false)
    (noQuote : c ≠ '\'') (inside : 0 < p.column) :
    readSingleQuoted held p (c :: rest) =
      (readSingleQuoted {} (p.move 1) rest).map fun t => (held.folded ++ c :: t.1, t.2) := by
  have noReturn := ne_return_of_isBreak_eq_false noBreak
  have column := Position.column_beq_zero inside
  simp [readSingleQuoted_cons noReturn, noBreak, noBlank, column, noQuote]

theorem readSingleQuoted_twoQuotes (inside : 0 < p.column) :
    readSingleQuoted held p ('\'' :: '\'' :: rest) =
      (readSingleQuoted {} (p.move 2) rest).map fun t => (held.folded ++ '\'' :: t.1, t.2) := by
  have column := Position.column_beq_zero inside
  rw [readSingleQuoted_cons (by decide), column]
  rfl

theorem readSingleQuoted_quote (inside : 0 < p.column) (ends : rest.head? ≠ some '\'') :
    readSingleQuoted held p ('\'' :: rest) = some (held.folded, p.move 1, rest) := by
  have column := Position.column_beq_zero inside
  have single : isBreak '\'' = false ∧ isBlank '\'' = false := by decide
  rw [readSingleQuoted_cons (by decide), column, single.1, single.2]
  simp only [Bool.false_eq_true, if_false, Bool.false_and, beq_self_eq_true, if_true]
  split
  case h_1 => exact absurd rfl ends
  case h_2 => rfl

end SingleQuotes

/-- A text that single quotes keep: its line ends stand for themselves, and no blank stands beside
one. -/
structure IsQuotable (cs : List Char) : Prop where
  printable : ∀ c ∈ cs, isPrintable c = true
  noLineFeed : '\n' ∉ cs
  noSpaceBreak : hasNeighbours (· == ' ') isBreak cs = false
  noBreakSpace : hasNeighbours isBreak (· == ' ') cs = false

/-- White space that is held back behind line ends that stand for themselves. -/
structure Held.KeepsBreaks (h : Held) : Prop where
  broken : h.broken = true
  kept : h.firstBreak ≠ ['\n']

theorem Held.KeepsBreaks.folded {h : Held} (keeps : h.KeepsBreaks) :
    h.folded = h.firstBreak ++ h.moreBreaks := by
  simp [Held.folded, keeps.broken, keeps.kept]

/-- A printable line end stands for itself. -/
theorem breakContent_eq {c : Char} (printable : isPrintable c = true) (ends : isBreak c = true) :
    breakContent c = c := by
  simp only [isBreak, Bool.or_eq_true, beq_iff_eq] at ends
  rcases ends with (((rfl | rfl) | rfl) | rfl) | rfl
  · rfl
  · exact absurd printable (by decide)
  · exact absurd printable (by decide)
  · rfl
  · rfl

theorem IsQuotable.tail {c : Char} {cs : List Char} (quotable : IsQuotable (c :: cs)) :
    IsQuotable cs := by
  obtain ⟨printable, noLineFeed, noSpaceBreak, noBreakSpace⟩ := quotable
  refine ⟨fun d member => printable d (List.mem_cons_of_mem c member),
    fun member => noLineFeed (List.mem_cons_of_mem c member), ?_, ?_⟩
  · cases cs with
    | nil => rfl
    | cons d cs => exact (Bool.or_eq_false_iff.mp noSpaceBreak).2
  · cases cs with
    | nil => rfl
    | cons d cs => exact (Bool.or_eq_false_iff.mp noBreakSpace).2

/-- What may be held back in front of the rest of a text in single quotes: line ends at the start
of a line, or blanks inside a line that do not stand in front of its end. -/
inductive Held.Waits (h : Held) (p : Position) : Bool → List Char → Prop
  | atMargin {cs : List Char} (keeps : h.KeepsBreaks) (noSpace : cs.head? ≠ some ' ') :
      Waits h p true cs
  | inLine {cs : List Char} (unbroken : h.broken = false) (inside : 0 < p.column)
      (blanks : h.blanks ≠ [] → ∀ c ∈ cs.head?, isBreak c = false) : Waits h p false cs

/-- Nothing is held back behind a word. -/
theorem Held.waits_nothing {cs : List Char} (n : Nat) :
    ({} : Held).Waits (p.move (n + 1)) false cs :=
  .inLine rfl (Nat.succ_pos _) fun some_blank => absurd rfl some_blank

theorem Held.Waits.addBlank {cs : List Char} (waits : held.Waits p false (' ' :: cs))
    (quotable : IsQuotable (' ' :: cs)) :
    (held.addBlank ' ').Waits (p.move 1) false cs ∧
      (held.addBlank ' ').folded = held.folded ++ [' '] := by
  cases waits with
  | inLine unbroken =>
      have added : held.addBlank ' ' = { held with blanks := held.blanks ++ [' '] } := by
        rw [Held.addBlank, unbroken]
        rfl
      have later : ∀ c ∈ cs.head?, isBreak c = false := by
        intro c first
        cases cs with
        | nil => cases first
        | cons d cs =>
            cases first
            simpa [hasNeighbours] using (Bool.or_eq_false_iff.mp quotable.noSpaceBreak).1
      rw [added]
      exact ⟨.inLine unbroken (Nat.succ_pos _) fun _ => later, by simp [Held.folded, unbroken]⟩

theorem Held.Waits.addBreak {afterBreak : Bool} {c : Char} {cs : List Char}
    (waits : held.Waits p afterBreak (c :: cs)) (quotable : IsQuotable (c :: cs))
    (ends : isBreak c = true) :
    (held.addBreak c).Waits (p.nextLine 1) true cs ∧
      (held.addBreak c).folded = held.folded ++ [c] := by
  have noLineFeed : c ≠ '\n' := fun same => quotable.noLineFeed (same ▸ List.mem_cons_self ..)
  have later : cs.head? ≠ some ' ' := by
    intro first
    cases cs with
    | nil => cases first
    | cons d cs =>
        cases first
        simpa [ends] using (Bool.or_eq_false_iff.mp quotable.noBreakSpace).1
  cases waits with
  | atMargin keeps =>
      have added : held.addBreak c = { held with moreBreaks := held.moreBreaks ++ [c] } :=
        if_pos keeps.broken
      have still : ({ held with moreBreaks := held.moreBreaks ++ [c] } : Held).KeepsBreaks :=
        ⟨keeps.broken, keeps.kept⟩
      rw [added]
      refine ⟨.atMargin still later, ?_⟩
      rw [still.folded, keeps.folded, List.append_assoc]
  | inLine unbroken _ blanks =>
      have none : held.blanks = [] := by
        cases some_blank : held.blanks with
        | nil => rfl
        | cons blank rest =>
            have goesOn := blanks (by simp [some_blank]) c rfl
            rw [ends] at goesOn
            cases goesOn
      have added : held.addBreak c = { broken := true, firstBreak := [c] } := by
        rw [Held.addBreak, unbroken]
        rfl
      have keeps : ({ broken := true, firstBreak := [c] } : Held).KeepsBreaks :=
        ⟨rfl, by simpa using noLineFeed⟩
      rw [added]
      refine ⟨.atMargin keeps later, ?_⟩
      rw [keeps.folded]
      simp [Held.folded, unbroken, none]

/-- The margin of a line is passed over. -/
theorem exists_readSingleQuoted_margin {indent : Nat} (indented : 0 < indent) {afterBreak : Bool}
    {cs : List Char} (waits : held.Waits p afterBreak cs) :
    ∃ inLine : Position, inLine.line = p.line ∧ 0 < inLine.column ∧
      (afterBreak = false → inLine = p) ∧
      ∀ cs, readSingleQuoted held p ((if afterBreak then margin indent else []) ++ cs) =
        readSingleQuoted held inLine cs := by
  cases waits with
  | atMargin keeps =>
      refine ⟨p.move indent, rfl, ?_, (nomatch ·), fun cs => ?_⟩
      · rw [Position.column_move]
        omega
      · exact readSingleQuoted_margin keeps.broken indent
  | inLine _ inside => exact ⟨p, rfl, inside, fun _ => rfl, fun cs => rfl⟩

/-- A written character is read: it is held back if it is a blank or a line end, and otherwise it
is taken behind what was held back.  `front` is what has been taken so far. -/
theorem Held.Waits.exists_readSingleQuoted_cons {indent : Nat} (indented : 0 < indent)
    {afterBreak : Bool} {c : Char} {cs : List Char} (quotable : IsQuotable (c :: cs))
    (waits : held.Waits p afterBreak (c :: cs)) :
    ∃ (next : Held) (q : Position) (front : List Char), p.line ≤ q.line ∧
      next.Waits q (isBreak c) cs ∧ front ++ next.folded = held.folded ++ [c] ∧
      ∀ rest, readSingleQuoted held p (singleContent indent afterBreak (c :: cs) ++ rest) =
        (readSingleQuoted next q (singleContent indent (isBreak c) cs ++ rest)).map fun t =>
          (front ++ t.1, t.2) := by
  have printable := quotable.printable c (List.mem_cons_self ..)
  cases ends : isBreak c with
  | true =>
      obtain ⟨waits, added⟩ := waits.addBreak quotable ends
      refine ⟨held.addBreak c, p.nextLine 1, [], Nat.le_succ _, waits, added, fun rest => ?_⟩
      rw [singleContent, if_pos ends, List.cons_append,
        readSingleQuoted_break (ne_of_isPrintable printable (by decide)) ends,
        breakContent_eq printable ends]
      simp
  | false =>
      obtain ⟨inLine, line, inside, same, passed⟩ := exists_readSingleQuoted_margin indented waits
      have margin (rest : List Char) :
          readSingleQuoted held p (singleContent indent afterBreak (c :: cs) ++ rest) =
            readSingleQuoted held inLine ((if c == '\'' then ['\'', '\''] else [c]) ++
              (singleContent indent false cs ++ rest)) := by
        rw [singleContent, ends, if_neg Bool.false_ne_true, List.append_assoc, List.append_assoc,
          passed]
      by_cases space : c = ' '
      · subst space
        cases waits with
        | atMargin _ noSpace => exact absurd rfl noSpace
        | inLine unbroken inside blanks =>
            cases same rfl
            obtain ⟨waits, added⟩ := Held.Waits.addBlank (.inLine unbroken inside blanks) quotable
            refine ⟨held.addBlank ' ', p.move 1, [], Nat.le_refl _, waits, added, fun rest => ?_⟩
            rw [margin, if_neg (by decide), List.singleton_append, readSingleQuoted_space]
            simp
      · have noBlank := isBlank_eq_false space (ne_of_isPrintable printable (by decide))
        by_cases quote : c = '\''
        · subst quote
          refine ⟨{}, inLine.move 2, held.folded ++ ['\''], Nat.le_of_eq line.symm,
            Held.waits_nothing 1, by simp [Held.folded], fun rest => ?_⟩
          rw [margin, if_pos (by decide), List.cons_append, List.singleton_append,
            readSingleQuoted_twoQuotes inside]
          simp
        · refine ⟨{}, inLine.move 1, held.folded ++ [c], Nat.le_of_eq line.symm,
            Held.waits_nothing 0, by simp [Held.folded], fun rest => ?_⟩
          rw [margin, if_neg (by simpa using quote), List.singleton_append,
            readSingleQuoted_char ends noBlank quote inside]
          simp

/-- A text in single quotes is read back. -/
theorem readSingleQuoted_append {indent : Nat} (indented : 0 < indent) {afterBreak : Bool}
    {cs rest : List Char} (quotable : IsQuotable cs) (waits : held.Waits p afterBreak cs)
    (ends : rest.head? ≠ some '\'') :
    ∃ after : Position, p.line ≤ after.line ∧
      readSingleQuoted held p (singleContent indent afterBreak cs ++ '\'' :: rest) =
        some (held.folded ++ cs, after, rest) := by
  induction cs generalizing held p afterBreak with
  | nil =>
      obtain ⟨inLine, line, inside, -, passed⟩ := exists_readSingleQuoted_margin indented waits
      refine ⟨inLine.move 1, Nat.le_of_eq line.symm, ?_⟩
      rw [singleContent, passed, readSingleQuoted_quote inside ends, List.append_nil]
  | cons c cs ih =>
      obtain ⟨next, q, front, below, waits, taken, step⟩ :=
        waits.exists_readSingleQuoted_cons indented quotable
      obtain ⟨after, later, run⟩ := ih quotable.tail waits
      refine ⟨after, Nat.le_trans below later, ?_⟩
      rw [step, run, Option.map_some, ← List.append_assoc, taken, List.append_assoc,
        List.singleton_append]

end ComponentGen.Yaml

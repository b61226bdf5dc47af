import ComponentGen.Proofs.Yaml.QuotedScalars

/-!
# Literal scalars read back

The lines of a literal scalar are read as they are, without their margins.  The header tells the
indentation when the first line does not show it, and what happens to the line ends behind the
last line, so that these are read as they were as well.
-/

namespace ComponentGen.Yaml

/-! ## Steps of the reader -/

section Steps

variable {chomping : Chomping} {floor : Nat} {s : BlockState} {p : Position} {c : Char}
  {rest : List Char}

/-- The rule for a character that is no carriage return. -/
theorem readBlock_cons {inLine : Bool} (noReturn : c ≠ '\r') :
    readBlock false chomping floor s inLine p (c :: rest) =
      if inLine then
        if isBreak c then
          readBlock false chomping floor { s with lineBreak := [breakContent c] } false
            (p.nextLine 1) rest
        else (readBlock false chomping floor s true (p.move 1) rest).map fun tail =>
          (c :: tail.1, tail.2)
      else if s.inMargin p && c == ' ' then
        readBlock false chomping floor s false (p.move 1) rest
      else if s.inMargin p && c == '\t' then none
      else if isBreak c then
        readBlock false chomping floor (s.addEmptyLine (breakContent c) p.column) false
          (p.nextLine 1) rest
      else if p.column == s.settled floor p.column then
        (readBlock false chomping floor
            { indent := s.settled floor p.column, afterBlank := isBlank c } true
            (p.move 1) rest).map fun tail => (s.joint false c ++ c :: tail.1, tail.2)
      else some (s.tail chomping, p, c :: rest) := by
  rw [readBlock]
  exact fun _ same => absurd same noReturn

theorem readBlock_margin (k : Nat) (within : s.indent = 0 ∨ p.column + k ≤ s.indent) :
    readBlock false chomping floor s false p (margin k ++ rest) =
      readBlock false chomping floor s false (p.move k) rest := by
  induction k generalizing p with
  | zero => rfl
  | succ k ih =>
      have inMargin : s.inMargin p = true := by
        rcases within with unknown | within
        · simp [BlockState.inMargin, unknown]
        · have left : p.column < s.indent := by omega
          simp [BlockState.inMargin, left]
      have later : s.indent = 0 ∨ (p.move 1).column + k ≤ s.indent :=
        within.imp_right fun within => by
          rw [Position.column_move]
          omega
      rw [margin_succ, List.cons_append, readBlock_cons (by decide), if_neg Bool.false_ne_true,
        inMargin, if_pos (by decide), ih later, Position.move_move, Nat.add_comm]

/-- An empty line is kept for later, at a place in the margin. -/
theorem readBlock_emptyLine (noReturn : c ≠ '\r') (ends : isBreak c = true) :
    readBlock false chomping floor s false p (c :: rest) =
      readBlock false chomping floor (s.addEmptyLine (breakContent c) p.column) false
        (p.nextLine 1) rest := by
  have noBlank : c ≠ ' ' ∧ c ≠ '\t' := by
    constructor <;> rintro rfl <;> exact absurd ends (by decide)
  simp [readBlock_cons noReturn, ends, noBlank]

/-- The first character of a line that is not empty. -/
theorem readBlock_first (noBreak : isBreak c = false) (noTab : c ≠ '\t')
    (shown : s.inMargin p = true → c ≠ ' ') (column : s.settled floor p.column = p.column) :
    readBlock false chomping floor s false p (c :: rest) =
      (readBlock false chomping floor { indent := p.column, afterBlank := isBlank c } true
        (p.move 1) rest).map fun t => (s.lineBreak ++ s.emptyLines ++ c :: t.1, t.2) := by
  have noReturn := ne_return_of_isBreak_eq_false noBreak
  have content : (s.inMargin p && c == ' ') = false := by
    cases inMargin : s.inMargin p with
    | false => rfl
    | true => simpa using shown inMargin
  simp [readBlock_cons noReturn, content, noBreak, noTab, column, BlockState.joint]

theorem readBlock_lineEnd (noReturn : c ≠ '\r') (ends : isBreak c = true) :
    readBlock false chomping floor s true p (c :: rest) =
      readBlock false chomping floor { s with lineBreak := [breakContent c] } false
        (p.nextLine 1) rest := by
  rw [readBlock_cons noReturn, if_pos rfl, if_pos ends]

theorem readBlock_char (noBreak : isBreak c = false) :
    readBlock false chomping floor s true p (c :: rest) =
      (readBlock false chomping floor s true (p.move 1) rest).map fun t => (c :: t.1, t.2) := by
  have noReturn := ne_return_of_isBreak_eq_false noBreak
  rw [readBlock_cons noReturn, if_pos rfl, noBreak, if_neg Bool.false_ne_true]

/-- The scalar ends in front of a token that is not indented like it. -/
theorem readBlock_stop {next : List Char} (token : StartsToken next) (left : p.column < s.indent) :
    readBlock false chomping floor s false p next = some (s.tail chomping, p, next) := by
  cases next with
  | nil => rfl
  | cons c rest =>
      have start := token.isTokenStart
      have noReturn := ne_return_of_isBreak_eq_false start.noBreak
      have noBlank : c ≠ ' ' ∧ c ≠ '\t' := by
        constructor <;> rintro rfl <;> exact absurd start.noBlank (by decide)
      have known : s.indent ≠ 0 := by omega
      have column : (p.column == s.indent) = false := beq_eq_false_iff_ne.mpr (Nat.ne_of_lt left)
      simp [readBlock_cons noReturn, start.noBreak, noBlank, BlockState.settled, known, column]

end Steps

/-! ## The lines of a text -/

/-- Whether the line ends behind the last line of a text are read back, when those in `lineBreak`
and `emptyLines` were passed at its start. -/
def KeepsEnd (chomping : Chomping) : Bool → List Char → List Char → List Char → Prop
  | true, _, _, [] => chomping = .strip
  | false, lineBreak, emptyLines, [] =>
      ({ indent := 0, lineBreak, emptyLines } : BlockState).tail chomping = lineBreak ++ emptyLines
  | inLine, lineBreak, emptyLines, c :: rest =>
      if isBreak c then
        if inLine then KeepsEnd chomping false [c] [] rest
        else KeepsEnd chomping false lineBreak (emptyLines ++ [c]) rest
      else KeepsEnd chomping true [] [] rest

/-- A place in a literal scalar whose lines are indented to a column: inside a line, or at the
start of one.  The indentation is not known in front of the first line if that shows it. -/
inductive BlockState.At (indent : Nat) (s : BlockState) (p : Position) : Bool → List Char → Prop
  | inLine {cs : List Char} (known : s.indent = indent) (noBreak : s.lineBreak = [])
      (noLines : s.emptyLines = []) : At indent s p true cs
  | lineStart {cs : List Char} (known : s.indent = indent) (column : p.column = 0) :
      At indent s p false cs
  | firstLine {c : Char} {cs : List Char} (unknown : s.indent = 0) (noMargin : s.widest = 0)
      (column : p.column = 0) (noSpace : c ≠ ' ') (noBreak : isBreak c = false) :
      At indent s p false (c :: cs)

/-- The margin of a line with content is passed over, and its first character shows that the
lines are indented to the column where it stands. -/
theorem BlockState.At.readBlock_content {chomping : Chomping} {floor : Nat} {s : BlockState}
    {p : Position} {c : Char} {cs rest : List Char} (place : s.At (floor + 1) p false (c :: cs))
    (noBreak : isBreak c = false) (noTab : c ≠ '\t') :
    readBlock false chomping floor s false p (margin (floor + 1) ++ c :: rest) =
      (readBlock false chomping floor { indent := floor + 1, afterBlank := isBlank c } true
        (p.move (floor + 2)) rest).map fun t => (s.lineBreak ++ s.emptyLines ++ c :: t.1, t.2) := by
  cases place with
  | lineStart known column =>
      have here : (p.move (floor + 1)).column = s.indent := by
        rw [Position.column_move, column, known, Nat.zero_add]
      have settled : s.settled floor (p.move (floor + 1)).column = (p.move (floor + 1)).column := by
        rw [BlockState.settled, if_neg (by omega), here]
      have outside : s.inMargin (p.move (floor + 1)) = false := by
        rw [BlockState.inMargin, here, known]
        simp
      rw [readBlock_margin _ (.inr (by omega)),
        readBlock_first noBreak noTab (by simp [outside]) settled, here, known,
        Position.move_move]
  | firstLine unknown noMargin column noSpace =>
      have here : (p.move (floor + 1)).column = floor + 1 := by
        rw [Position.column_move, column, Nat.zero_add]
      have settled : s.settled floor (p.move (floor + 1)).column = (p.move (floor + 1)).column := by
        rw [BlockState.settled, if_pos unknown, here, noMargin]
        omega
      rw [readBlock_margin _ (.inl unknown), readBlock_first noBreak noTab (fun _ => noSpace) settled,
        here, Position.move_move]

/-- A line end is held back, and the reader goes on at the start of the next line. -/
theorem BlockState.At.exists_readBlock_break {chomping : Chomping} {floor indent : Nat}
    {s : BlockState} {p : Position} {inLine : Bool} {c : Char} {cs : List Char}
    (place : s.At indent p inLine (c :: cs)) (printable : isPrintable c = true)
    (ends : isBreak c = true) (keeps : KeepsEnd chomping inLine s.lineBreak s.emptyLines (c :: cs)) :
    ∃ next : BlockState, next.At indent (p.nextLine 1) false cs ∧
      KeepsEnd chomping false next.lineBreak next.emptyLines cs ∧
      next.lineBreak ++ next.emptyLines = s.lineBreak ++ s.emptyLines ++ [c] ∧
      ∀ rest, readBlock false chomping floor s inLine p (c :: rest) =
        readBlock false chomping floor next false (p.nextLine 1) rest := by
  have same := breakContent_eq printable ends
  have noReturn : c ≠ '\r' := ne_of_isPrintable printable (by decide)
  cases place with
  | inLine known noBreak noLines =>
      rw [KeepsEnd, if_pos ends, if_pos rfl] at keeps
      refine ⟨{ s with lineBreak := [c] }, .lineStart known rfl, ?_, ?_, fun rest => ?_⟩
      · rwa [noLines]
      · simp [noBreak, noLines]
      · rw [readBlock_lineEnd noReturn ends, same]
  | lineStart known column =>
      rw [KeepsEnd, if_pos ends, if_neg Bool.false_ne_true] at keeps
      refine ⟨s.addEmptyLine c p.column, .lineStart known rfl, keeps, ?_, fun rest => ?_⟩
      · simp [BlockState.addEmptyLine]
      · rw [readBlock_emptyLine noReturn ends, same]
  | firstLine _ _ _ _ noBreak => exact absurd ends (Bool.eq_false_iff.mp noBreak)

/-- A character of a line is taken behind the line ends that were held back in front of it, and
the reader goes on inside the line. -/
theorem BlockState.At.exists_readBlock_char {chomping : Chomping} {floor : Nat} {s : BlockState}
    {p : Position} {inLine : Bool} {c : Char} {cs : List Char}
    (place : s.At (floor + 1) p inLine (c :: cs)) (printable : isPrintable c = true)
    (noBreak : isBreak c = false) :
    ∃ (next : BlockState) (q : Position), next.At (floor + 1) q true cs ∧
      next.lineBreak = [] ∧ next.emptyLines = [] ∧
      ∀ rest, readBlock false chomping floor s inLine p
          ((if !inLine then margin (floor + 1) else []) ++ c :: rest) =
        (readBlock false chomping floor next true q rest).map fun t =>
          (s.lineBreak ++ s.emptyLines ++ c :: t.1, t.2) := by
  cases inLine with
  | true =>
      cases place with
      | inLine known noBreaks noLines =>
          refine ⟨s, p.move 1, .inLine known noBreaks noLines, noBreaks, noLines, fun rest => ?_⟩
          rw [Bool.not_true, if_neg Bool.false_ne_true, List.nil_append, readBlock_char noBreak,
            noBreaks, noLines]
          rfl
  | false =>
      refine ⟨{ indent := floor + 1, afterBlank := isBlank c }, p.move (floor + 2),
        .inLine rfl rfl rfl, rfl, rfl, fun rest => ?_⟩
      rw [Bool.not_false, if_pos rfl,
        place.readBlock_content noBreak (ne_of_isPrintable printable (by decide))]

/-- Behind the last line, the scalar ends with the line ends that are kept. -/
theorem BlockState.At.readBlock_end {chomping : Chomping} {floor k : Nat} {s : BlockState}
    {p : Position} {inLine : Bool} {next : List Char} (place : s.At (floor + 1) p inLine [])
    (token : StartsToken next) (left : k < floor)
    (keeps : KeepsEnd chomping inLine s.lineBreak s.emptyLines []) :
    ∃ line : Position, line.column = 0 ∧
      readBlock false chomping floor s inLine p
          (literalLines (floor + 1) (!inLine) [] ++ (margin k ++ next)) =
        some (s.lineBreak ++ s.emptyLines, line.move k, next) := by
  cases place with
  | inLine known noBreak noLines =>
      refine ⟨p.nextLine 1, rfl, ?_⟩
      have within : (p.nextLine 1).column + k ≤ s.indent := by
        simp only [Position.column_nextLine, known]
        omega
      have behind : ((p.nextLine 1).move k).column < s.indent := by
        simp only [Position.column_move, Position.column_nextLine, known]
        omega
      rw [Bool.not_true, literalLines, if_neg Bool.false_ne_true, List.singleton_append,
        readBlock_lineEnd (by decide) (by decide), readBlock_margin _ (.inr (by exact within)),
        readBlock_stop token (by exact behind), noBreak, noLines, keeps]
      rfl
  | lineStart known column =>
      refine ⟨p, column, ?_⟩
      have within : p.column + k ≤ s.indent := by omega
      have behind : (p.move k).column < s.indent := by
        rw [Position.column_move]
        omega
      have kept : s.tail chomping = s.lineBreak ++ s.emptyLines := keeps
      rw [Bool.not_false, literalLines, if_pos rfl, List.nil_append,
        readBlock_margin _ (.inr within), readBlock_stop token behind, kept]

theorem literalLines_break {indent : Nat} {lineStart : Bool} {c : Char} {cs : List Char}
    (ends : isBreak c = true) :
    literalLines indent lineStart (c :: cs) = c :: literalLines indent true cs := by
  rw [literalLines, if_pos ends]

theorem literalLines_char {indent : Nat} {lineStart : Bool} {c : Char} {cs : List Char}
    (noBreak : isBreak c = false) :
    literalLines indent lineStart (c :: cs) =
      (if lineStart then margin indent else []) ++ c :: literalLines indent false cs := by
  rw [literalLines, if_neg (by simp [noBreak])]

/-- The lines of a text are read back. -/
theorem readBlock_literalLines {chomping : Chomping} {floor k : Nat} {s : BlockState}
    {p : Position} {inLine : Bool} {cs next : List Char} (token : StartsToken next)
    (left : k < floor) (printable : ∀ c ∈ cs, isPrintable c = true)
    (place : s.At (floor + 1) p inLine cs)
    (keeps : KeepsEnd chomping inLine s.lineBreak s.emptyLines cs) :
    ∃ line : Position, line.column = 0 ∧
      readBlock false chomping floor s inLine p
          (literalLines (floor + 1) (!inLine) cs ++ (margin k ++ next)) =
        some (s.lineBreak ++ s.emptyLines ++ cs, line.move k, next) := by
  induction cs generalizing s p inLine with
  | nil => simpa using place.readBlock_end token left keeps
  | cons c cs ih =>
      have visible := printable c (List.mem_cons_self ..)
      have others : ∀ d ∈ cs, isPrintable d = true := fun d member =>
        printable d (List.mem_cons_of_mem c member)
      cases ends : isBreak c with
      | true =>
          obtain ⟨after, there, keepsRest, held, step⟩ :=
            place.exists_readBlock_break visible ends keeps
          obtain ⟨line, column, run⟩ := ih others there keepsRest
          refine ⟨line, column, ?_⟩
          rw [literalLines_break ends, List.cons_append, step]
          simpa [held] using run
      | false =>
          obtain ⟨after, q, there, noBreaks, noLines, step⟩ :=
            place.exists_readBlock_char visible ends
          have keepsRest : KeepsEnd chomping true after.lineBreak after.emptyLines cs := by
            rw [KeepsEnd, ends, if_neg Bool.false_ne_true] at keeps
            rwa [noBreaks, noLines]
          obtain ⟨line, column, run⟩ := ih others there keepsRest
          refine ⟨line, column, ?_⟩
          rw [Bool.not_true] at run
          rw [literalLines_char ends, List.append_assoc, List.cons_append, step, run]
          simp [noBreaks, noLines]

/-! ## Headers -/

/-- The chomping that a header asks for. -/
def chompingOf (cs : List Char) : Chomping :=
  match chompingSign cs with
  | ['-'] => .strip
  | ['+'] => .keep
  | _ => .clip

/-- Only what stands behind the last character that is no line end matters. -/
theorem keepsEnd_append_cons {chomping : Chomping} {c : Char} (noBreak : isBreak c = false)
    (inLine : Bool) (lineBreak emptyLines front : List Char) {back : List Char}
    (keeps : KeepsEnd chomping true [] [] back) :
    KeepsEnd chomping inLine lineBreak emptyLines (front ++ c :: back) := by
  induction front generalizing inLine lineBreak emptyLines with
  | nil => rwa [List.nil_append, KeepsEnd, noBreak, if_neg Bool.false_ne_true]
  | cons d front ih =>
      rw [List.cons_append, KeepsEnd]
      split
      · split
        · exact ih ..
        · exact ih ..
      · exact ih ..

/-- The line end that the reader finds behind the last line is not part of the text. -/
theorem keepsEnd_strip {c : Char} (noBreak : isBreak c = false) (inLine : Bool)
    (lineBreak emptyLines front : List Char) :
    KeepsEnd .strip inLine lineBreak emptyLines (front ++ [c]) := by
  apply keepsEnd_append_cons noBreak
  rw [KeepsEnd]

/-- A single line end behind the last line is kept. -/
theorem keepsEnd_clip {c d : Char} (noBreak : isBreak c = false) (ends : isBreak d = true)
    (inLine : Bool) (lineBreak emptyLines front : List Char) :
    KeepsEnd .clip inLine lineBreak emptyLines (front ++ [c, d]) := by
  apply keepsEnd_append_cons noBreak
  rw [KeepsEnd, if_pos ends, if_pos rfl]
  rfl

/-- Any number of line ends behind the last line is kept. -/
theorem keepsEnd_keep {c : Char} (ends : isBreak c = true) (inLine : Bool)
    (lineBreak emptyLines front : List Char) :
    KeepsEnd .keep inLine lineBreak emptyLines (front ++ [c]) := by
  induction front generalizing inLine lineBreak emptyLines with
  | nil =>
      rw [List.nil_append, KeepsEnd, if_pos ends]
      split <;> rfl
  | cons d front ih =>
      rw [List.cons_append, KeepsEnd]
      split
      · split
        · exact ih ..
        · exact ih ..
      · exact ih ..

/-- The chomping sign of a text keeps the end of the text. -/
theorem keepsEnd_chompingOf {cs : List Char} (some_char : cs ≠ []) :
    KeepsEnd (chompingOf cs) false [] [] cs := by
  have text : cs = cs.reverse.reverse := (List.reverse_reverse cs).symm
  rw [chompingOf, chompingSign]
  cases reversed : cs.reverse with
  | nil => exact absurd (List.reverse_eq_nil_iff.mp reversed) some_char
  | cons c rest =>
      rw [reversed, List.reverse_cons] at text
      cases rest with
      | nil =>
          rw [text]
          cases ends : isBreak c with
          | false => simpa [ends] using keepsEnd_strip ends false [] [] []
          | true => simpa [ends] using keepsEnd_keep ends false [] [] []
      | cons d rest =>
          rw [text]
          cases ends : isBreak c with
          | false => simpa [ends] using keepsEnd_strip ends false [] [] (d :: rest).reverse
          | true =>
              cases before : isBreak d with
              | true =>
                  simpa [ends, before] using keepsEnd_keep ends false [] [] (d :: rest).reverse
              | false =>
                  simpa [ends, before] using keepsEnd_clip before ends false [] [] rest.reverse

theorem chompingSign_cases (cs : List Char) :
    chompingSign cs = ['-'] ∨ chompingSign cs = ['+'] ∨ chompingSign cs = [] := by
  unfold chompingSign
  split
  · simp
  · split <;> simp
  · split
    · simp
    · split <;> simp

theorem indentationSign_cases (cs : List Char) :
    indentationSign cs = [] ∨ indentationSign cs = ['2'] := by
  unfold indentationSign
  split
  · simp
  · split <;> simp

/-- The header of a text is read, up to the end of its line. -/
theorem readHeader?_signs (cs rest : List Char) :
    readHeader? (indentationSign cs ++ chompingSign cs ++ '\n' :: rest) =
      some ({ chomping := chompingOf cs, increment := if indentationSign cs = [] then 0 else 2 },
        (indentationSign cs ++ chompingSign cs).length, '\n' :: rest) := by
  have digit : '2'.isDigit = true ∧ Number.digitValue '2' = 2 ∧ '\n'.isDigit = false := by decide
  rcases indentationSign_cases cs with shown | hidden
  · rcases chompingSign_cases cs with sign | sign | sign <;> cases rest <;>
      simp [readHeader?, chomping?, chompingOf, shown, sign, digit]
  · rcases chompingSign_cases cs with sign | sign | sign <;>
      simp [readHeader?, chomping?, chompingOf, hidden, sign, digit]

/-- The state in front of the first line of a text. -/
theorem at_firstLine {floor : Nat} (positive : 0 < floor) {cs : List Char} (some_char : cs ≠ [])
    {p : Position} (column : p.column = 0) :
    BlockState.At (floor + 1)
      { indent := if (if indentationSign cs = [] then 0 else 2) = 0 then 0
          else floor - 1 + (if indentationSign cs = [] then 0 else 2) } p false cs := by
  cases cs with
  | nil => exact absurd rfl some_char
  | cons c cs =>
      by_cases shown : c == ' ' || isBreak c
      · have hidden : indentationSign (c :: cs) = ['2'] := if_pos shown
        refine .lineStart ?_ column
        simp only [hidden]
        simp
        omega
      · have none : indentationSign (c :: cs) = [] := if_neg shown
        simp only [Bool.or_eq_true, beq_iff_eq, not_or, Bool.not_eq_true] at shown
        exact .firstLine (by simp [none]) rfl column shown.1 shown.2

/-- A text that is written literally is read back, behind the indicator. -/
theorem readBlockScalar_literal {floor k : Nat} {p : Position} {cs next : List Char}
    (positive : 0 < floor) (some_char : cs ≠ []) (printable : ∀ c ∈ cs, isPrintable c = true)
    (token : StartsToken next) (left : k < floor) :
    ∃ line : Position, line.column = 0 ∧
      readBlockScalar false floor p (indentationSign cs ++ chompingSign cs ++
          '\n' :: (literalLines (floor + 1) true cs ++ (margin k ++ next))) =
        some (cs, line.move k, next) := by
  have finish (q : Position) (rest : List Char) :
      finishLine? false q ('\n' :: rest) = some (q.nextLine 1, rest) := by
    rw [finishLine?]
    · rfl
    · exact fun _ same => absurd same (by decide)
  obtain ⟨line, column, run⟩ :=
    readBlock_literalLines token left printable
      (at_firstLine positive some_char
        (show ((p.move (indentationSign cs ++ chompingSign cs).length).nextLine 1).column = 0
          from rfl))
      (keepsEnd_chompingOf some_char)
  refine ⟨line, column, ?_⟩
  rw [readBlockScalar, readHeader?_signs]
  simp only [Option.bind_eq_bind, Option.bind_some, finish]
  simpa using run

end ComponentGen.Yaml

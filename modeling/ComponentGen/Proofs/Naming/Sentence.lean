import ComponentGen.Naming.Sentence
import ComponentGen.Proofs.Text.Trim

/-!
# Where sentences end

The search for the end of a sentence goes from boundary to boundary.  A blank line ends the
sentence that it is behind, with one exception: where it is part of the white space between a mark
and a small letter, it is passed over together with the mark.
-/

namespace ComponentGen.Naming

open Text

/-! ## Boundaries -/

/-- Blank lines: a line end, blanks, and the next line end, perhaps with a carriage return. -/
inductive IsBlankLine : List Char → Prop where
  | lineFeed {blanks : List Char} (only : ∀ c ∈ blanks, c = ' ' ∨ c = '\t') :
      IsBlankLine ('\n' :: blanks ++ ['\n'])
  | carriageReturn {blanks : List Char} (only : ∀ c ∈ blanks, c = ' ' ∨ c = '\t') :
      IsBlankLine ('\n' :: blanks ++ ['\r', '\n'])

theorem isTerminator_iff {c : Char} : isTerminator c = true ↔ c = '.' ∨ c = '!' ∨ c = '?' := by
  simp [isTerminator, or_assoc]

theorem isCloser_iff {c : Char} :
    isCloser c = true ↔ c = '"' ∨ c = '\'' ∨ c = ')' ∨ c = ']' := by
  simp [isCloser, or_assoc]

theorem isTerminator_of_isCloser {c : Char} (closer : isCloser c = true) :
    isTerminator c = false := by
  rcases isCloser_iff.mp closer with rfl | rfl | rfl | rfl <;> rfl

theorem isCloser_of_isSpace {c : Char} (blank : isSpace c = true) : isCloser c = false := by
  rw [← Bool.not_eq_true]
  intro closer
  rcases isCloser_iff.mp closer with rfl | rfl | rfl | rfl <;> cases blank

theorem isTerminator_of_isSpace {c : Char} (blank : isSpace c = true) :
    isTerminator c = false := by
  rw [← Bool.not_eq_true]
  intro mark
  rcases isTerminator_iff.mp mark with rfl | rfl | rfl <;> cases blank

/-- Marks, what closes behind them, and white space. -/
structure IsMarked (marks closers blanks : List Char) : Prop where
  nonempty : marks ≠ []
  ending : ∀ c ∈ marks, c = '.' ∨ c = '!' ∨ c = '?'
  closing : ∀ c ∈ closers, c = '"' ∨ c = '\'' ∨ c = ')' ∨ c = ']'
  blanks : ∀ c ∈ blanks, isSpace c = true

theorem IsMarked.terminators {marks closers blanks : List Char}
    (marked : IsMarked marks closers blanks) : ∀ c ∈ marks, isTerminator c = true :=
  fun c member => isTerminator_iff.mpr (marked.ending c member)

theorem IsMarked.closers {marks closers blanks : List Char}
    (marked : IsMarked marks closers blanks) : ∀ c ∈ closers, isCloser c = true :=
  fun c member => isCloser_iff.mpr (marked.closing c member)

/-- The boundaries that a text can start with: marks with all the white space behind them, which
end a sentence unless a small letter follows, and blank lines. -/
inductive StartsWith : List Char → Boundary → Prop where
  | marks {marks closers blanks rest : List Char} (marked : IsMarked marks closers blanks)
      (present : blanks ≠ []) (all : ∀ c ∈ rest.head?, isSpace c = false) :
      StartsWith (marks ++ closers ++ blanks ++ rest)
        ⟨(marks ++ closers ++ blanks).length, !rest.head?.any isLower⟩
  | blankLine {line rest : List Char} (blank : IsBlankLine line) :
      StartsWith (line ++ rest) ⟨line.length, true⟩

theorem startsWith_of_markBoundary? {cs : List Char} {b : Boundary}
    (found : markBoundary? cs = some b) : StartsWith cs b := by
  rcases exists_span_eq isTerminator cs with ⟨marks, others, first, rfl, terminators, _⟩
  rcases exists_span_eq isCloser others with ⟨closers, others, second, rfl, closing, _⟩
  rcases exists_span_eq isSpace others with ⟨blanks, rest, third, rfl, spaces, all⟩
  simp only [markBoundary?, first, second, third] at found
  split at found
  · cases found
  · rename_i present
    simp only [Bool.or_eq_true, List.isEmpty_iff, not_or] at present
    cases found
    have marked : IsMarked marks closers blanks :=
      ⟨present.1, fun c member => isTerminator_iff.mp (terminators c member),
        fun c member => isCloser_iff.mp (closing c member), spaces⟩
    simpa [Nat.add_assoc] using StartsWith.marks marked present.2 all

theorem startsWith_of_blankLine? {cs : List Char} {b : Boundary} (found : blankLine? cs = some b) :
    StartsWith cs b := by
  unfold blankLine? at found
  split at found
  · rename_i cs
    rcases exists_span_eq (fun c => c == ' ' || c == '\t') cs with
      ⟨blanks, others, cut, rfl, only, _⟩
    simp only [Bool.or_eq_true, beq_iff_eq] at only
    simp only [cut] at found
    split at found
    · cases found
      simpa using StartsWith.blankLine (IsBlankLine.lineFeed only)
    · cases found
      simpa using StartsWith.blankLine (IsBlankLine.carriageReturn only)
    · cases found
  · cases found

theorem markBoundary?_of_isMarked {marks closers blanks rest : List Char}
    (marked : IsMarked marks closers blanks) (present : blanks ≠ [])
    (all : ∀ c ∈ rest.head?, isSpace c = false) :
    markBoundary? (marks ++ closers ++ blanks ++ rest) =
      some ⟨(marks ++ closers ++ blanks).length, !rest.head?.any isLower⟩ := by
  -- White space cannot close, and neither of them is a mark, so each row ends where it should.
  have closed : ∀ c ∈ (blanks ++ rest).head?, isCloser c = false := by
    intro c first
    rw [List.head?_append_of_ne_nil blanks present] at first
    exact isCloser_of_isSpace (marked.blanks c (List.mem_of_mem_head? first))
  have stopped : ∀ c ∈ (closers ++ (blanks ++ rest)).head?, isTerminator c = false := by
    intro c first
    rw [← List.append_assoc, List.head?_append_of_ne_nil (closers ++ blanks) (by simp [present])]
      at first
    rcases List.mem_append.mp (List.mem_of_mem_head? first) with closer | blank
    · exact isTerminator_of_isCloser (marked.closers c closer)
    · exact isTerminator_of_isSpace (marked.blanks c blank)
  have first := span_append marked.terminators stopped
  have second := span_append marked.closers closed
  have third := span_append marked.blanks all
  simp only [List.append_assoc, markBoundary?, first, second, third]
  simp [marked.nonempty, present, Nat.add_assoc]

theorem blankLine?_of_isBlankLine {line rest : List Char} (blank : IsBlankLine line) :
    blankLine? (line ++ rest) = some ⟨line.length, true⟩ := by
  cases blank with
  | @lineFeed blanks only =>
      have cut : (blanks ++ '\n' :: rest).span (fun c => c == ' ' || c == '\t') =
          (blanks, '\n' :: rest) :=
        span_append (by simpa using only) (by simp)
      simp only [List.cons_append, List.append_assoc, List.nil_append, blankLine?, cut]
      simp
  | @carriageReturn blanks only =>
      have cut : (blanks ++ '\r' :: '\n' :: rest).span (fun c => c == ' ' || c == '\t') =
          (blanks, '\r' :: '\n' :: rest) :=
        span_append (by simpa using only) (by simp)
      simp only [List.cons_append, List.append_assoc, List.nil_append, blankLine?, cut]
      simp

/-- The boundary at which a search looks is one that the text starts with. -/
theorem boundary?_eq_some_iff {cs : List Char} {b : Boundary} :
    boundary? cs = some b ↔ StartsWith cs b := by
  constructor
  · intro found
    unfold boundary? at found
    cases marked : markBoundary? cs with
    | some first =>
        rw [marked] at found
        cases found
        exact startsWith_of_markBoundary? marked
    | none =>
        rw [marked] at found
        exact startsWith_of_blankLine? found
  · intro starts
    cases starts with
    | marks marked present all => rw [boundary?, markBoundary?_of_isMarked marked present all]
    | @blankLine line rest blank =>
        have unmarked : markBoundary? (line ++ rest) = none := by
          cases blank <;> rfl
        rw [boundary?, unmarked]
        exact blankLine?_of_isBlankLine blank

/-! ## Where a blank line ends a sentence -/

/-- Text that ends with marks, perhaps with something that closes and with white space. -/
def BehindMark (before : List Char) : Prop :=
  ∃ start marks closers blanks, IsMarked marks closers blanks ∧
    before = start ++ (marks ++ closers ++ blanks)

/-- Text whose first character that is not white space is a small letter. -/
def BeforeSmall (after : List Char) : Prop := (trimLeft after).head?.any isLower = true

theorem BehindMark.append {before : List Char} (behind : BehindMark before) (front : List Char) :
    BehindMark (front ++ before) := by
  rcases behind with ⟨start, marks, closers, blanks, marked, rfl⟩
  exact ⟨front ++ start, marks, closers, blanks, marked, by simp⟩

theorem BehindMark.cons {before : List Char} (behind : BehindMark before) (c : Char) :
    BehindMark (c :: before) :=
  behind.append [c]

theorem IsBlankLine.spaces {line : List Char} (blank : IsBlankLine line) :
    ∀ c ∈ line, isSpace c = true := by
  have inside {blanks : List Char} (only : ∀ c ∈ blanks, c = ' ' ∨ c = '\t') :
      ∀ c ∈ blanks, isSpace c = true := by
    intro c member
    rcases only c member with rfl | rfl <;> rfl
  cases blank with
  | lineFeed only =>
      simp only [List.cons_append, List.forall_mem_cons, List.forall_mem_append]
      exact ⟨rfl, inside only, rfl, by simp⟩
  | carriageReturn only =>
      simp only [List.cons_append, List.forall_mem_cons, List.forall_mem_append]
      exact ⟨rfl, inside only, rfl, rfl, by simp⟩

theorem IsBlankLine.exists_eq_cons {line : List Char} (blank : IsBlankLine line) :
    ∃ rest, line = '\n' :: rest := by
  cases blank <;> exact ⟨_, rfl⟩

/-- Text that ends at a place or in the white space behind it. -/
def EndsBy (start p : List Char) : Prop :=
  ∃ blanks, (∀ c ∈ blanks, isSpace c = true) ∧ p <+: start ++ blanks

theorem EndsBy.append {start p : List Char} (ends : EndsBy start p) (front : List Char) :
    EndsBy (front ++ start) (front ++ p) := by
  rcases ends with ⟨blanks, spaces, within⟩
  refine ⟨blanks, spaces, ?_⟩
  rw [List.append_assoc]
  exact (List.prefix_append_right_inj front).mpr within

theorem EndsBy.cons {start p : List Char} (ends : EndsBy start p) (c : Char) :
    EndsBy (c :: start) (c :: p) :=
  ends.append [c]

theorem endsBy_of_isPrefix {start p : List Char} (within : p <+: start) : EndsBy start p :=
  ⟨[], by simp, by simpa using within⟩

/-- What stands behind a place inside of a boundary with marks is white space if it starts with
white space. -/
theorem IsMarked.cut {marks closers blanks start more : List Char} {c : Char}
    (marked : IsMarked marks closers blanks)
    (same : marks ++ closers ++ blanks = start ++ c :: more) (space : isSpace c = true) :
    BehindMark start ∧ ∀ d ∈ c :: more, isSpace d = true := by
  have spaces := marked.blanks
  rcases List.append_eq_append_iff.mp same with ⟨front, rfl, rfl⟩ | ⟨inner, outer, tail⟩
  · rw [List.forall_mem_append] at spaces
    have shorter : IsMarked marks closers front :=
      ⟨marked.nonempty, marked.ending, marked.closing, spaces.1⟩
    exact ⟨⟨[], marks, closers, front, shorter, rfl⟩, spaces.2⟩
  · cases inner with
    | nil =>
        rw [List.append_nil] at outer
        rw [List.nil_append] at tail
        have bare : IsMarked marks closers [] :=
          ⟨marked.nonempty, marked.ending, marked.closing, by simp⟩
        exact ⟨⟨[], marks, closers, [], bare, by simpa using outer.symm⟩, tail ▸ spaces⟩
    | cons d inner =>
        -- A mark or something that closes is no white space.
        cases tail
        have member : c ∈ marks ++ closers := by simp [outer]
        rcases List.mem_append.mp member with mark | closer
        · have other := isTerminator_of_isSpace space
          rw [marked.terminators c mark] at other
          cases other
        · have other := isCloser_of_isSpace space
          rw [marked.closers c closer] at other
          cases other

/-- A boundary that reaches a blank line ends the sentence there, unless the blank line is passed
over; and one that does not end it stops in front of the blank line. -/
theorem StartsWith.endsBy {cs start line after : List Char} {b : Boundary}
    (starts : StartsWith cs b) (same : cs = start ++ (line ++ after)) (blank : IsBlankLine line)
    (seen : ¬ (BehindMark start ∧ BeforeSmall after)) :
    b.ends = true ∧ EndsBy start (cs.take b.length) ∨ b.ends = false ∧ b.length ≤ start.length := by
  cases starts with
  | @blankLine other rest found =>
      left
      rw [List.take_left]
      refine ⟨rfl, ?_⟩
      rcases List.append_eq_append_iff.mp same with ⟨tail, rfl, _⟩ | ⟨more, rfl, _⟩
      · exact endsBy_of_isPrefix (List.prefix_append other tail)
      · have spaces := found.spaces
        rw [List.forall_mem_append] at spaces
        exact ⟨more, spaces.2, List.prefix_rfl⟩
  | @marks marks closers blanks rest marked present all =>
      rw [List.take_left]
      rcases Nat.lt_or_ge start.length (marks ++ closers ++ blanks).length with longer | short
      · rcases blank.exists_eq_cons with ⟨others, rfl⟩
        have reached : ∃ more, marks ++ closers ++ blanks = start ++ '\n' :: more ∧
            others ++ after = more ++ rest := by
          rcases List.append_eq_append_iff.mp same with ⟨tail, rfl, _⟩ | ⟨more, whole, behind⟩
          · rw [List.length_append] at longer
            omega
          · rcases List.cons_eq_append_iff.mp behind with ⟨rfl, _⟩ | ⟨more, rfl, others⟩
            · simp [whole] at longer
            · exact ⟨more, whole, others⟩
        rcases reached with ⟨more, whole, behind⟩
        rcases marked.cut whole rfl with ⟨markBefore, spaces⟩
        -- The white space goes on to the end of the boundary, so what follows is the same.
        have rest_eq : trimLeft after = rest := by
          rw [← trimLeft_append blank.spaces, List.cons_append, behind, ← List.cons_append,
            trimLeft_append spaces, trimLeft_eq_self all]
        have ends : rest.head?.any isLower ≠ true :=
          fun small => seen ⟨markBefore, by rwa [BeforeSmall, rest_eq]⟩
        exact .inl ⟨by simpa using ends, whole ▸ ⟨_, spaces, List.prefix_rfl⟩⟩
      · have within : marks ++ closers ++ blanks <+: start :=
          List.prefix_of_prefix_length_le (List.prefix_append _ rest)
            (same ▸ List.prefix_append start _) short
        cases (!rest.head?.any isLower) with
        | true => exact .inl ⟨rfl, endsBy_of_isPrefix within⟩
        | false => exact .inr ⟨rfl, short⟩

theorem untilEnd?_of_blankLine {skip : Nat} {start line after : List Char}
    (skipped : skip ≤ start.length) (blank : IsBlankLine line)
    (seen : ¬ (BehindMark start ∧ BeforeSmall after)) :
    ∃ p, untilEnd? skip (start ++ (line ++ after)) = some p ∧ EndsBy start p := by
  induction start generalizing skip with
  | nil =>
      rcases blank.exists_eq_cons with ⟨rest, rfl⟩
      have found := boundary?_eq_some_iff.mpr (@StartsWith.blankLine _ after blank)
      cases Nat.le_zero.mp skipped
      refine ⟨'\n' :: rest, ?_, '\n' :: rest, blank.spaces, List.prefix_rfl⟩
      rw [List.cons_append] at found
      simp [untilEnd?, found]
  | cons c start ih =>
      have seenLater : ¬ (BehindMark start ∧ BeforeSmall after) :=
        fun passed => seen ⟨passed.1.cons c, passed.2⟩
      have later {skip : Nat} (skipped : skip ≤ start.length) :
          ∃ p, (untilEnd? skip (start ++ (line ++ after))).map (c :: ·) = some p ∧
            EndsBy (c :: start) p := by
        rcases ih skipped seenLater with ⟨p, found, ends⟩
        exact ⟨c :: p, by rw [found, Option.map_some], ends.cons c⟩
      cases skip with
      | succ skip => exact later (Nat.le_of_succ_le_succ skipped)
      | zero =>
          have text : c :: start ++ (line ++ after) = c :: (start ++ (line ++ after)) := rfl
          rw [text]
          cases found : boundary? (c :: (start ++ (line ++ after))) with
          | none =>
              rw [untilEnd?, found]
              exact later (Nat.zero_le start.length)
          | some b =>
              rw [untilEnd?, found]
              rcases (boundary?_eq_some_iff.mp found).endsBy rfl blank seen with
                ⟨ends, endsBy⟩ | ⟨goesOn, short⟩
              · exact ⟨_, if_pos ends, endsBy⟩
              · rw [List.length_cons] at short
                simpa [goesOn] using later (Nat.sub_le_of_le_add short)

/-! ## White space around the text -/

theorem BehindMark.of_append {blanks before : List Char}
    (behind : BehindMark (blanks ++ before)) (spaces : ∀ c ∈ blanks, isSpace c = true) :
    BehindMark before := by
  rcases behind with ⟨start, marks, closers, others, marked, same⟩
  rcases List.append_eq_append_iff.mp same with ⟨inner, rfl, rfl⟩ | ⟨inner, rfl, tail⟩
  · exact ⟨inner, marks, closers, others, marked, rfl⟩
  · cases inner with
    | nil => exact ⟨[], marks, closers, others, marked, tail.symm⟩
    | cons c inner =>
        -- The first mark would be white space.
        rcases List.exists_cons_of_ne_nil marked.nonempty with ⟨mark, more, rfl⟩
        have first : mark = c := by simpa using congrArg List.head? tail
        have other := isTerminator_of_isSpace (spaces c (by simp))
        rw [← first, marked.terminators mark (List.mem_cons_self ..)] at other
        cases other

theorem BeforeSmall.of_append {after blanks : List Char} (small : BeforeSmall (after ++ blanks))
    (spaces : ∀ c ∈ blanks, isSpace c = true) : BeforeSmall after := by
  unfold BeforeSmall at small ⊢
  rw [trimLeft, List.dropWhile_append] at small
  split at small
  · have nothing := List.dropWhile_eq_nil_iff.mpr spaces
    rw [nothing] at small
    cases small
  · rename_i present
    rwa [List.head?_append_of_ne_nil _ (by simpa using present)] at small

/-- What ends in the white space behind a place ends at the place once it is trimmed. -/
theorem trimRight_isPrefix_of_endsBy {start p : List Char} (ends : EndsBy start p) :
    trimRight p <+: start := by
  rcases ends with ⟨blanks, spaces, within⟩
  rcases List.prefix_or_prefix_of_prefix within (List.prefix_append start blanks) with
    short | ⟨part, rfl⟩
  · exact (trimRight_isPrefix p).trans short
  · have inside : part <+: blanks := (List.prefix_append_right_inj start).mp within
    rw [trimRight_append start fun c member => spaces c (inside.subset member)]
    exact trimRight_isPrefix start

theorem endsBy_trimLeft {start p : List Char} (ends : EndsBy start p) :
    EndsBy (trimLeft start) (trimLeft p) := by
  rcases ends with ⟨blanks, spaces, within⟩
  refine ⟨blanks, spaces, (trimLeft_isPrefix_trimLeft within).trans ?_⟩
  rw [trimLeft, List.dropWhile_append]
  split
  · rw [List.dropWhile_eq_nil_iff.mpr spaces]
    exact List.nil_prefix
  · exact List.prefix_rfl

/-- A blank line ends the first sentence, wherever it stands and whatever is in front of it or
behind it, unless marks and nothing but white space are in front of it and a small letter follows
behind it: then it is passed over. -/
theorem firstSentence_isPrefix_of_blankLine {s : String} {before line after : List Char}
    (split : (trim s).toList = before ++ line ++ after) (blank : IsBlankLine line)
    (seen : ¬ (BehindMark before ∧ BeforeSmall after)) :
    (firstSentence s).toList <+: before := by
  rcases exists_toList_eq_trim s with ⟨left, right, whole, inLeft, inRight⟩
  have text : s.toList = left ++ before ++ (line ++ (after ++ right)) := by
    rw [whole, split]
    simp
  have seenInside : ¬ (BehindMark (left ++ before) ∧ BeforeSmall (after ++ right)) :=
    fun passed => seen ⟨passed.1.of_append inLeft, passed.2.of_append inRight⟩
  rcases untilEnd?_of_blankLine (Nat.zero_le _) blank seenInside with ⟨p, found, ends⟩
  have notBlank : isBlank s = false := by
    rw [← Bool.not_eq_true, ← trim_eq_empty_iff, ← String.toList_inj, split]
    rcases blank.exists_eq_cons with ⟨others, rfl⟩
    simp
  have starts : ∀ c ∈ before.head?, isSpace c = false := by
    have trimmed : IsTrimmed (trim s).toList := by
      rw [toList_trim]
      exact isTrimmed_trimRight_trimLeft s.toList
    intro c first
    apply trimmed.1 c
    rw [split, List.append_assoc, List.head?_append, first]
    rfl
  have within := trimRight_isPrefix_of_endsBy (endsBy_trimLeft ends)
  rw [trimLeft_append inLeft, trimLeft_eq_self starts] at within
  rw [firstSentence, notBlank, text, found]
  simpa using within

/-- A text in which a blank line ends the first sentence, in spite of an abbreviation before it. -/
theorem firstSentence_isPrefix_of_blankLine_paragraphs :
    (trim "  Use e.g. this one.\n \r\nThen more.").toList =
        "Use e.g. this one.".toList ++ "\n \r\n".toList ++ "Then more.".toList ∧
      IsBlankLine "\n \r\n".toList ∧
      ¬ (BehindMark "Use e.g. this one.".toList ∧ BeforeSmall "Then more.".toList) ∧
      (firstSentence "  Use e.g. this one.\n \r\nThen more.").toList <+:
        "Use e.g. this one.".toList := by
  have split : (trim "  Use e.g. this one.\n \r\nThen more.").toList =
      "Use e.g. this one.".toList ++ "\n \r\n".toList ++ "Then more.".toList := by
    decide
  have blank : IsBlankLine "\n \r\n".toList := @IsBlankLine.carriageReturn [' '] (by simp)
  have seen : ¬ (BehindMark "Use e.g. this one.".toList ∧ BeforeSmall "Then more.".toList) := by
    have capital : (trimLeft "Then more.".toList).head?.any isLower = false := by decide
    rintro ⟨_, small⟩
    rw [BeforeSmall, capital] at small
    cases small
  exact ⟨split, blank, seen, firstSentence_isPrefix_of_blankLine split blank seen⟩

/-- A blank line that is passed over does not end the first sentence. -/
theorem not_forall_firstSentence_isPrefix :
    ¬ ∀ (s : String) (before line after : List Char),
        (trim s).toList = before ++ line ++ after → IsBlankLine line →
          (firstSentence s).toList <+: before := by
  intro always
  have within := always "One.\n\ntwo" "One.".toList "\n\n".toList "two".toList
    (by decide) (@IsBlankLine.lineFeed [] (by simp))
  have whole : firstSentence "One.\n\ntwo" = "One.\n\ntwo" := by decide
  rw [whole] at within
  exact absurd within (by decide)

end ComponentGen.Naming

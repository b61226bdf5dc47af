import ComponentGen.Proofs.Yaml.LiteralScalars
import ComponentGen.Proofs.Yaml.Spellings
import ComponentGen.Yaml.Printer

/-!
# Leaves of a written YAML text read back

A value without parts ends with its line, and the reader then stands at the next token.  Whatever
the style that a text is written in, the scalar that is read has the text and is not taken for a
missing value; truth values and numbers are read as such.
-/

namespace ComponentGen.Yaml

open Number

/-! ## From the token to the scalar -/

/-- The start of a scalar, or of a collection in brackets: no block scalar, no property and no
mark of an item, a key or a value. -/
structure StartsCompact (cs : List Char) : Prop where
  some_char : cs ≠ []
  noBlock : startsIndented cs = false
  noDash : startsIndicator '-' cs = false
  noColon : startsIndicator ':' cs = false
  noQuery : startsIndicator '?' cs = false
  noAnchor : cs.head? ≠ some '&'
  noTag : cs.head? ≠ some '!'

variable {floor : Nat} {p q : Position} {b : Bool} {cs : List Char}

theorem properties?_of_startsCompact (starts : StartsCompact cs) :
    Cursor.properties? false ⟨cs, p, b, [], []⟩ = some ({}, ⟨cs, p, b, [], []⟩) := by
  rw [Cursor.properties?, readProperties?]
  split
  case h_1 same => exact absurd (congrArg List.head? same) starts.noAnchor
  case h_2 same => exact absurd (congrArg List.head? same) starts.noTag
  case h_3 => rfl

/-- What stands behind the properties of a node, of which there are none. -/
theorem readKey_eq {node : Node} {after : Cursor}
    (compact : readCompact (fuelFor cs) floor false {} ⟨cs, p, b, [], []⟩ = some (node, after)) :
    readKey floor {} ⟨cs, p, b, [], []⟩ = some (node, after.toToken false) := by
  rw [readKey]
  simp [Properties.isEmpty, compact]

theorem not_atDocumentEnd (some_char : cs ≠ [])
    (noMark : (p.column == 0 && startsMark cs) = false) :
    Cursor.atDocumentEnd ⟨cs, p, b, [], []⟩ = false := by
  simp [Cursor.atDocumentEnd, Cursor.column, some_char, noMark]

theorem noMark_of_pos (positive : 0 < p.column) (cs : List Char) :
    (p.column == 0 && startsMark cs) = false := by
  rw [beq_eq_false_iff_ne.mpr (Nat.ne_of_gt positive), Bool.false_and]

/-- A node that stands behind the column of the collection around it and is neither a list nor a
block scalar starts with its content. -/
theorem readNode_eq_readContent {fuel : Nat} {slot : Slot} (starts : StartsCompact cs)
    (inside : floor < p.column + 1) (noMark : (p.column == 0 && startsMark cs) = false) :
    readNode (fuel + 1) floor slot {} ⟨cs, p, b, [], []⟩ =
      readContent fuel floor slot {} ⟨cs, p, b, [], []⟩ := by
  have noEnd : (Cursor.atDocumentEnd ⟨cs, p, b, [], []⟩ ||
      decide (Cursor.column ⟨cs, p, b, [], []⟩ + 1 < floor)) = false := by
    rw [not_atDocumentEnd starts.some_char noMark, Bool.false_or, decide_eq_false_iff_not]
    exact Nat.not_lt.mpr (Nat.le_of_lt inside)
  have column : ¬ Cursor.column ⟨cs, p, b, [], []⟩ + 1 = floor := Nat.ne_of_gt inside
  rw [readNode, noEnd, starts.noBlock, starts.noDash, starts.noColon, starts.noQuery]
  simp [column]

/-- A node that ends with its line is read. -/
theorem readNode_compact {fuel : Nat} {slot : Slot} {node : Node} {after : Cursor}
    (starts : StartsCompact cs) (inside : floor ≤ p.column) (positive : 0 < p.column)
    (compact : readCompact (fuelFor cs) floor false {} ⟨cs, p, b, [], []⟩ = some (node, after))
    (later : p.line < (after.toToken false).line) :
    readNode (fuel + 2) floor slot {} ⟨cs, p, b, [], []⟩ = some (node, after.toToken false) := by
  have otherLine : ¬ Cursor.line ⟨cs, p, b, [], []⟩ = (after.toToken false).line :=
    Nat.ne_of_lt later
  rw [readNode_eq_readContent starts (Nat.lt_succ_of_le inside) (noMark_of_pos positive cs),
    readContent, properties?_of_startsCompact starts, Option.bind_eq_bind, Option.bind_some]
  simp [Properties.isEmpty, starts.noBlock, readKey_eq compact, otherLine]

/-! ## Scalars of one line -/

/-- The start of a scalar that stands for itself: no alias and no collection in brackets. -/
structure StartsScalar (cs : List Char) : Prop extends StartsCompact cs where
  noAlias : cs.head? ≠ some '*'
  noList : cs.head? ≠ some '['
  noMap : cs.head? ≠ some '\x7b'

theorem readCompact_scalar {fuel : Nat} {content : List Char} {style : ScalarStyle}
    {after : Cursor} (starts : StartsScalar cs)
    (scalar : readFlowScalar? false floor ⟨cs, p, b, [], []⟩ = some (content, style, after)) :
    readCompact (fuel + 1) floor false {} ⟨cs, p, b, [], []⟩ =
      some (scalarNode content style {}, after) := by
  rw [readCompact]
  split
  case h_1 same => exact absurd (congrArg List.head? same) starts.noAlias
  case h_2 same => exact absurd (congrArg List.head? same) starts.noList
  case h_3 same => exact absurd (congrArg List.head? same) starts.noMap
  case h_4 =>
    rw [scalar]
    rfl

theorem startsScalar_of_startsPlain (starts : startsPlain false cs = true) (tail : List Char) :
    StartsScalar (cs ++ tail) := by
  have other {d : Char} (indicator : d ∈ indicators) : (cs ++ tail).head? ≠ some d :=
    head?_ne_of_startsPlain starts indicator tail
  cases cs with
  | nil => exact absurd starts (by decide)
  | cons c rest =>
      have start := isPlainStart_of_startsPlain starts
      have noLiteral : c ≠ '|' := by simpa using @other '|' (by decide)
      have noFolded : c ≠ '>' := by simpa using @other '>' (by decide)
      have goesOn (d : Char) (mark : d = '-' ∨ d = '?' ∨ d = ':') :
          startsIndicator d (c :: rest ++ tail) = false := by
        by_cases same : c = d
        · subst same
          have more : rest ≠ [] := by
            rintro rfl
            exact absurd (start.goesOn mark) (by decide)
          rw [List.cons_append, startsIndicator, startsBlank_append more, start.goesOn mark,
            Bool.and_false]
        · simp [startsIndicator, same]
      exact {
        some_char := by simp
        noBlock := by simp [startsIndented, noLiteral, noFolded]
        noDash := goesOn '-' (.inl rfl)
        noColon := goesOn ':' (.inr (.inr rfl))
        noQuery := goesOn '?' (.inr (.inl rfl))
        noAnchor := other (by decide)
        noTag := other (by decide)
        noAlias := other (by decide)
        noList := other (by decide)
        noMap := other (by decide) }

theorem readFlowScalar?_plain {tail : List Char} (line : IsPlainLine cs)
    (noMark : (p.column == 0 && startsMark (cs ++ tail)) = false) :
    readFlowScalar? false floor ⟨cs ++ tail, p, b, [], []⟩ =
      (readPlain false floor {} (p.move cs.length) tail).map fun t =>
        (cs ++ t.1, .plain, ⟨t.2.2.2, t.2.2.1, t.2.1, [], []⟩) := by
  rw [readFlowScalar?]
  split
  case h_1 same =>
    exact absurd (congrArg List.head? same) (head?_ne_of_startsPlain line.starts (by decide) tail)
  case h_2 same =>
    exact absurd (congrArg List.head? same) (head?_ne_of_startsPlain line.starts (by decide) tail)
  case h_3 =>
    simp [startsPlain_append line.starts tail, line.readPlain tail noMark, Function.comp_def]

theorem readFlowScalar?_singleQuoted {indent : Nat} (indented : 0 < indent)
    (quotable : IsQuotable cs) (tail : List Char) :
    ∃ q : Position, p.line ≤ q.line ∧
      readFlowScalar? false floor ⟨singleQuoted indent cs ++ '\n' :: tail, p, b, [], []⟩ =
        some (cs, .quoted, ⟨'\n' :: tail, q, false, [], []⟩) := by
  obtain ⟨q, later, run⟩ := @readSingleQuoted_append {} (p.move 1) indent indented false cs
    ('\n' :: tail) quotable (Held.waits_nothing 0) (by simp)
  refine ⟨q, later, ?_⟩
  rw [singleQuoted, List.cons_append, List.cons_append, List.append_assoc, List.singleton_append,
    readFlowScalar?]
  simp [run, Held.folded]

theorem readFlowScalar?_doubleQuoted (cs tail : List Char) :
    ∃ q : Position, p.line ≤ q.line ∧
      readFlowScalar? false floor ⟨doubleQuoted cs ++ '\n' :: tail, p, b, [], []⟩ =
        some (cs, .quoted, ⟨'\n' :: tail, q, false, [], []⟩) := by
  have run := @readDoubleQuoted_append (p.move 1) [] cs ('\n' :: tail) (Nat.succ_pos _)
  refine ⟨(p.move 1).move ((cs.flatMap escape).length + 1), Nat.le_refl _, ?_⟩
  rw [doubleQuoted, List.cons_append, List.cons_append, List.append_assoc, List.singleton_append,
    readFlowScalar?]
  simp [run]

/-! ## Leaves -/

/-- A reader has read a node that shows a value, and stands at the first token of the lines behind
it. -/
def Reads (v : Json) (lines : List Char) (result : Option (Node × Cursor)) : Prop :=
  ∃ n line, Shows v n ∧ line.column = 0 ∧ result = some (n, firstToken lines line)

section Leaves

variable {fuel column : Nat} {slot : Slot} {s : String} {ends : List Char → Prop}
  {lines : List Char}

/-- What keeps to its line is read up to the next token. -/
theorem reads_of_readCompact {v : Json} {node : Node} (starts : StartsCompact cs)
    (inside : column < p.column) (shows_ : Shows v node) (follows : Follows column ends lines)
    (later : p.line ≤ q.line)
    (compact : readCompact (fuelFor cs) (column + 1) false {} ⟨cs, p, b, [], []⟩ =
      some (node, ⟨'\n' :: lines, q, false, [], []⟩)) :
    Reads v lines (readNode (fuel + 2) (column + 1) slot {} ⟨cs, p, b, [], []⟩) := by
  cases follows with
  | @mk k next token =>
      refine ⟨node, q.nextLine 1, shows_, rfl, ?_⟩
      rw [← @toToken_newLine q false]
      apply readNode_compact starts inside (Nat.zero_lt_of_lt inside) compact
      rw [toToken_newLine, firstToken_margin k token]
      exact Nat.lt_succ_of_le later

/-- A plain scalar is read up to the next token. -/
theorem reads_plain {v : Json} (line : IsPlainLine cs) (inside : column < p.column)
    (shows_ : Shows v (scalarNode cs .plain {})) (follows : Follows column ends lines) :
    Reads v lines (readNode (fuel + 2) (column + 1) slot {}
      ⟨cs ++ '\n' :: lines, p, b, [], []⟩) := by
  have starts := startsScalar_of_startsPlain line.starts ('\n' :: lines)
  have noMark := noMark_of_pos (Nat.zero_lt_of_lt inside) (cs ++ '\n' :: lines)
  cases follows with
  | @mk k next token left =>
      have scalar : readFlowScalar? false (column + 1)
          ⟨cs ++ '\n' :: (margin k ++ next), p, b, [], []⟩ =
          some (cs, .plain, ⟨next, ((p.move cs.length).nextLine 1).move k, true, [], []⟩) := by
        rw [readFlowScalar?_plain line noMark, readPlain_newLine token (Nat.lt_succ_of_le left),
          Option.map_some, List.append_nil]
      refine ⟨_, (p.move cs.length).nextLine 1, shows_, rfl, ?_⟩
      rw [firstToken_margin k token, ← toToken_token token]
      apply readNode_compact starts.toStartsCompact inside (Nat.zero_lt_of_lt inside)
        (readCompact_scalar starts scalar)
      rw [toToken_token token]
      exact Nat.lt_succ_self p.line

theorem startsScalar_quote {quote : Char} (isQuote : quote = '"' ∨ quote = '\'')
    (rest : List Char) : StartsScalar (quote :: rest) := by
  rcases isQuote with rfl | rfl <;>
    exact {
      some_char := by simp
      noBlock := rfl
      noDash := rfl
      noColon := rfl
      noQuery := rfl
      noAnchor := by simp
      noTag := by simp
      noAlias := by simp
      noList := by simp
      noMap := by simp }

/-- The texts that a style keeps. -/
def TextStyle.Keeps (s : String) : TextStyle → Prop
  | .plain => fitsPlain s.toList = true ∧ isPlainText s = true
  | .singleQuoted => IsQuotable s.toList
  | .doubleQuoted => True
  | .literal => s.toList ≠ [] ∧ ∀ c ∈ s.toList, isPrintable c = true

/-- A text is written in a style that keeps it. -/
theorem textStyle_keeps (s : String) : (textStyle s).Keeps s := by
  rw [textStyle]
  by_cases lines : s.toList.contains '\n' = true
  · have some_char : s.toList ≠ [] := by
      intro none
      rw [none] at lines
      cases lines
    rw [if_pos lines]
    by_cases fits : fitsLiteral s.toList = true
    · rw [if_pos fits]
      simp only [fitsLiteral, keepsCharacters, Bool.and_eq_true, List.all_eq_true] at fits
      exact ⟨some_char, fits.1.1⟩
    · rw [if_neg fits]
      trivial
  · have noFeed : '\n' ∉ s.toList := by simpa using lines
    rw [if_neg lines, lineStyle]
    by_cases plain : (fitsPlain s.toList && isPlainText s) = true
    · rw [if_pos plain]
      exact (Bool.and_eq_true _ _).mp plain
    · rw [if_neg plain]
      by_cases fits : fitsSingleQuotes s.toList = true
      · rw [if_pos fits]
        simp only [fitsSingleQuotes, keepsCharacters, Bool.and_eq_true, Bool.not_eq_true',
          List.all_eq_true] at fits
        exact ⟨fits.1.1, noFeed, fits.1.2, fits.2⟩
      · rw [if_neg fits]
        trivial

/-- A value without parts is read in full, wherever it stands behind the column of the collection
around it. -/
structure ReadsLeaf (v : Json) : Prop where
  starts : ∀ indent, ∃ c rest, printedLeaf indent v = c :: rest ∧ IsContentStart c
  reads : ∀ {fuel column : Nat} {slot : Slot} {p : Position} {b : Bool} {ends : List Char → Prop}
    {lines : List Char}, column < p.column → Follows column ends lines →
      Reads v lines (readNode (fuel + 2) (column + 1) slot {}
        ⟨printedLeaf (column + 2) v ++ lines, p, b, [], []⟩)

/-- A text of several lines is read up to the next token. -/
theorem reads_literal (some_char : s.toList ≠ []) (printable : ∀ c ∈ s.toList, isPrintable c = true)
    (inside : column < p.column) (follows : Follows column ends lines) :
    Reads (.text s) lines (readNode (fuel + 2) (column + 1) slot {}
      ⟨'|' :: (indentationSign s.toList ++ (chompingSign s.toList ++
        '\n' :: (literalLines (column + 2) true s.toList ++ lines))), p, b, [], []⟩) := by
  cases follows with
  | @mk k next token left =>
      obtain ⟨line, start, run⟩ := @readBlockScalar_literal (column + 1) k (p.move 1) s.toList next
        (Nat.succ_pos column) some_char printable token (Nat.lt_succ_of_le left)
      refine ⟨scalarNode s.toList .literal {}, line, shows_styledText s (by decide), start, ?_⟩
      have noEnd (rest : List Char) : (Cursor.atDocumentEnd ⟨'|' :: rest, p, b, [], []⟩ ||
          decide (Cursor.column ⟨'|' :: rest, p, b, [], []⟩ + 1 < column + 1)) = false := by
        rw [not_atDocumentEnd (List.cons_ne_nil _ _) (noMark_of_pos (Nat.zero_lt_of_lt inside) _),
          Bool.false_or, decide_eq_false_iff_not]
        exact Nat.not_lt.mpr (Nat.succ_le_succ (Nat.le_of_lt inside))
      rw [List.append_assoc] at run
      rw [readNode, noEnd, readIndented?, firstToken_margin k token]
      simp [startsIndented, run, Cursor.remember, toToken_token token]

theorem starts_writtenText (indent : Nat) (s : String) :
    ∃ c rest, writtenText indent s = c :: rest ∧ IsContentStart c := by
  have keeps := textStyle_keeps s
  rw [writtenText]
  cases style : textStyle s with
  | plain =>
      rw [style] at keeps
      obtain ⟨c, rest, text, start⟩ := (isPlainLine_of_fitsPlain keeps.1).exists_cons
      exact ⟨c, rest ++ ['\n'], by rw [text, List.cons_append], start⟩
  | singleQuoted => exact ⟨'\'', _, rfl, by decide, by decide, by decide⟩
  | doubleQuoted => exact ⟨'"', _, rfl, by decide, by decide, by decide⟩
  | literal => exact ⟨'|', _, rfl, by decide, by decide, by decide⟩

theorem reads_writtenText (s : String) (inside : column < p.column)
    (follows : Follows column ends lines) :
    Reads (.text s) lines (readNode (fuel + 2) (column + 1) slot {}
      ⟨writtenText (column + 2) s ++ lines, p, b, [], []⟩) := by
  have keeps := textStyle_keeps s
  rw [writtenText]
  cases style : textStyle s with
  | plain =>
      rw [style] at keeps
      simp only [List.append_assoc, List.singleton_append]
      exact reads_plain (isPlainLine_of_fitsPlain keeps.1) inside (shows_plainText keeps.2) follows
  | singleQuoted =>
      rw [style] at keeps
      simp only [List.append_assoc, List.singleton_append]
      obtain ⟨q, later, scalar⟩ := @readFlowScalar?_singleQuoted (column + 1) p b _ (column + 2)
        (Nat.succ_pos _) keeps lines
      have starts : StartsScalar (singleQuoted (column + 2) s.toList ++ '\n' :: lines) :=
        startsScalar_quote (.inr rfl) _
      exact reads_of_readCompact starts.toStartsCompact inside (shows_styledText s (by decide))
        follows later (readCompact_scalar starts scalar)
  | doubleQuoted =>
      simp only [List.append_assoc, List.singleton_append]
      obtain ⟨q, later, scalar⟩ := @readFlowScalar?_doubleQuoted (column + 1) p b s.toList lines
      have starts : StartsScalar (doubleQuoted s.toList ++ '\n' :: lines) :=
        startsScalar_quote (.inl rfl) _
      exact reads_of_readCompact starts.toStartsCompact inside (shows_styledText s (by decide))
        follows later (readCompact_scalar starts scalar)
  | literal =>
      rw [style] at keeps
      simp only [List.append_assoc, List.cons_append]
      exact reads_literal keeps.1 keeps.2 inside follows

theorem readsLeaf_text (s : String) : ReadsLeaf (.text s) where
  starts indent := starts_writtenText indent s
  reads := reads_writtenText s

theorem readsLeaf_bool (flag : Bool) : ReadsLeaf (.bool flag) := by
  constructor
  · intro indent
    cases flag with
    | true => exact ⟨'t', _, rfl, by decide, by decide, by decide⟩
    | false => exact ⟨'f', _, rfl, by decide, by decide, by decide⟩
  · intro fuel column slot p b ends lines inside follows
    cases flag with
    | true =>
        have letters : "true".toList.all Char.isAlpha = true := by decide
        have line := isPlainLine_of_isAlpha (by decide) (List.all_eq_true.mp letters)
        exact reads_plain line inside shows_true follows
    | false =>
        have letters : "false".toList.all Char.isAlpha = true := by decide
        have line := isPlainLine_of_isAlpha (by decide) (List.all_eq_true.mp letters)
        exact reads_plain line inside shows_false follows

theorem printedLeaf_int (indent : Nat) (n : Int) :
    printedLeaf indent (.int n) = (intText n).toList ++ ['\n'] :=
  rfl

theorem readsLeaf_int {n : Int} (fits : fitsInt64 n = true) : ReadsLeaf (.int n) := by
  have line := isPlainLine_intText n
  constructor
  · intro indent
    obtain ⟨c, rest, text, start⟩ := line.exists_cons
    exact ⟨c, rest ++ ['\n'], by rw [printedLeaf_int, text, List.cons_append], start⟩
  · intro fuel column slot p b ends lines inside follows
    rw [printedLeaf_int, List.append_assoc, List.singleton_append]
    exact reads_plain line inside (shows_int fits) follows

/-- An empty list in brackets is read up to the next token. -/
theorem readsLeaf_noItems : ReadsLeaf (.array []) := by
  constructor
  · exact fun indent => ⟨'[', _, rfl, by decide, by decide, by decide⟩
  · intro fuel column slot p b ends lines inside follows
    have starts : StartsCompact ('[' :: ']' :: '\n' :: lines) :=
      ⟨by simp, rfl, rfl, rfl, rfl, by simp, by simp⟩
    have shows_ : Shows (.array []) (.list .yaml []) := .array .nil
    apply reads_of_readCompact starts inside shows_ follows (Nat.le_refl (p.move 2).line)
    rfl

/-- An empty map in brackets is read up to the next token. -/
theorem readsLeaf_noFields : ReadsLeaf (.object []) := by
  constructor
  · exact fun indent => ⟨'\x7b', _, rfl, by decide, by decide, by decide⟩
  · intro fuel column slot p b ends lines inside follows
    have starts : StartsCompact ('\x7b' :: '\x7d' :: '\n' :: lines) :=
      ⟨by simp, rfl, rfl, rfl, rfl, by simp, by simp⟩
    have shows_ : Shows (.object []) (.map .yaml []) := .object .nil
    apply reads_of_readCompact starts inside shows_ follows (Nat.le_refl (p.move 2).line)
    rfl

end Leaves

end ComponentGen.Yaml

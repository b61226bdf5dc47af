import ComponentGen.Proofs.Yaml.Leaves

/-!
# Lists and maps of a written YAML text read back

The items of a list stand at one column and so do the entries of a map.  A node is followed by
lines that start in front of its column, or at the column of the collection around it: there the
next item or the next key ends it.  The length of a text bounds the calls that reading it takes.
-/

namespace ComponentGen.Yaml

variable {fuel floor column : Nat} {slot : Slot} {p : Position} {b : Bool} {lines : List Char}

/-! ## Marks -/

/-- The reader stands behind a mark and a blank. -/
theorem behind_blank {mark c : Char} {rest : List Char} {keyAllowed : Bool}
    (start : IsContentStart c) :
    Cursor.behind ⟨mark :: ' ' :: c :: rest, p, b, [], []⟩ false keyAllowed =
      ⟨c :: rest, p.move 2, keyAllowed, [], []⟩ := by
  have inside : (c == '\uFEFF' && (p.move 2).column == 0) = false := by
    rw [Position.column_move]
    simp
  rw [Cursor.behind, Cursor.toToken]
  simp [Cursor.skip, Cursor.toTokenFrom_blank, Cursor.toTokenFrom_content start inside]

/-- The reader stands at the first token of the lines behind a mark. -/
theorem behind_newLine (mark : Char) (lines : List Char) :
    Cursor.behind ⟨mark :: '\n' :: lines, p, b, [], []⟩ false false =
      firstToken lines ((p.move 1).nextLine 1) :=
  toToken_newLine lines

/-! ## Values and items -/

/-- Lines that are no item of a list. -/
def NoItem (next : List Char) : Prop := startsIndicator '-' next = false

/-- A value behind the colon of a key is read in full. -/
def ReadsValue (v : Json) : Prop :=
  ∀ {fuel column : Nat} {p : Position} {b : Bool} {lines : List Char},
    column ≤ p.column → Follows column NoItem lines → 4 * (printedValue column v).length ≤ fuel →
      Reads v lines (readNode fuel (column + 1) .value {}
        (Cursor.behind ⟨':' :: (printedValue column v ++ lines), p, b, [], []⟩ false false))

/-- A value behind the dash of an item is read in full. -/
structure ReadsItem (v : Json) : Prop where
  starts : ∀ column, ∃ c rest, printedItem column v = c :: rest ∧ IsContentStart c
  reads : ∀ {fuel column : Nat} {slot : Slot} {p : Position} {ends : List Char → Prop}
    {lines : List Char}, p.column = column + 2 → Follows column ends lines →
      4 * (printedItem column v).length ≤ fuel →
      Reads v lines (readNode fuel (column + 1) slot {}
        ⟨printedItem column v ++ lines, p, true, [], []⟩)

theorem ReadsLeaf.readsValue {v : Json} (leaf : ReadsLeaf v)
    (text : ∀ column, printedValue column v = ' ' :: printedLeaf (column + 2) v) :
    ReadsValue v := by
  intro fuel column p b lines inside follows enough
  obtain ⟨c, rest, starts, content⟩ := leaf.starts (column + 2)
  have more : ∃ less, fuel = less + 2 := by
    rw [text, List.length_cons] at enough
    exact ⟨fuel - 2, by omega⟩
  obtain ⟨less, rfl⟩ := more
  have behind := @leaf.reads less column .value (p.move 2) false _ lines
    (by rw [Position.column_move]; omega) follows
  rw [starts, List.cons_append] at behind
  rwa [text, starts, List.cons_append, List.cons_append, behind_blank content]

theorem ReadsLeaf.readsItem {v : Json} (leaf : ReadsLeaf v)
    (text : ∀ column, printedItem column v = printedLeaf (column + 2) v) : ReadsItem v := by
  constructor
  · intro column
    rw [text]
    exact leaf.starts (column + 2)
  · intro fuel column slot p ends lines here follows enough
    obtain ⟨c, rest, starts, -⟩ := leaf.starts (column + 2)
    have more : ∃ less, fuel = less + 2 := by
      rw [text, starts, List.length_cons] at enough
      exact ⟨fuel - 2, by omega⟩
    obtain ⟨less, rfl⟩ := more
    rw [text]
    exact leaf.reads (by omega) follows

/-! ## Lists -/

/-- What ends a list: the end of the text, and in front of a key also a key at its column. -/
def EndsItems (loose : Bool) (next : List Char) : Prop :=
  next = [] ∨ loose = true ∧ NoItem next

theorem follows_items {ends : List Char → Prop} (items : List Json)
    (follows : Follows column ends lines) :
    Follows column (fun _ => True) (printedItems column items ++ lines) := by
  cases items with
  | nil => exact follows.imp (Nat.le_refl _) fun _ _ _ => trivial
  | cons v rest =>
      rw [printedItems, List.append_assoc, List.append_assoc, List.append_assoc]
      exact .mk .dash (Nat.le_refl _) fun _ => trivial

/-- The reader of a list stops at what ends it. -/
theorem readItems_end {loose : Bool} (follows : Follows column (EndsItems loose) lines)
    (start : p.column = 0) :
    readItems (fuel + 1) loose column (firstToken lines p) = some ([], firstToken lines p) := by
  cases follows with
  | @mk k next token left same =>
      have here : Cursor.column ⟨next, p.move k, true, [], []⟩ = k := by
        rw [Cursor.column, Position.column_move, start, Nat.zero_add]
      rw [firstToken_margin k token, readItems, here]
      rcases Nat.lt_or_eq_of_le left with less | meets
      · simp [less]
      · rcases same meets with rfl | ⟨rfl, noItem⟩
        · simp [Cursor.atDocumentEnd]
        · rw [NoItem] at noItem
          simp [meets, noItem]

theorem readItems_dash {loose : Bool} {rest : List Char} {node : Node} {nodes : List Node}
    {after last : Cursor} (here : p.column = column)
    (item : readNode fuel (column + 1) (if loose then .looseItem else .item) {}
      (Cursor.behind ⟨'-' :: ' ' :: rest, p, b, [], []⟩ false true) = some (node, after))
    (items : readItems fuel loose column after = some (nodes, last)) :
    readItems (fuel + 1) loose column ⟨'-' :: ' ' :: rest, p, b, [], []⟩ =
      some (node :: nodes, last) := by
  have noMark : startsMark ('-' :: ' ' :: rest) = false := rfl
  have dash : startsIndicator '-' ('-' :: ' ' :: rest) = true := rfl
  rw [readItems]
  simp [Cursor.atDocumentEnd, Cursor.column, here, noMark, dash, item, items]

/-- The items of a list are read one after the other, from the start of their lines. -/
def ReadsItems (items : List Json) : Prop :=
  ∀ {fuel column : Nat} {loose : Bool} {p : Position} {lines : List Char},
    p.column = 0 → Follows column (EndsItems loose) lines →
      4 * (printedItems column items).length + 1 ≤ fuel →
      ∃ nodes line, ShowsItems items nodes ∧ line.column = 0 ∧
        readItems fuel loose column (firstToken (printedItems column items ++ lines) p) =
          some (nodes, firstToken lines line)

/-- From the dash of an item on the item and those behind it are read. -/
theorem ReadsItem.exists_readItems {v : Json} {items : List Json} (first : ReadsItem v)
    (others : ReadsItems items) {loose : Bool} (here : p.column = column)
    (follows : Follows column (EndsItems loose) lines)
    (enough : 4 * (printedItem column v).length + 4 * (printedItems column items).length + 2 ≤
      fuel) :
    ∃ nodes line, ShowsItems (v :: items) nodes ∧ line.column = 0 ∧
      readItems fuel loose column ⟨'-' :: ' ' ::
          (printedItem column v ++ (printedItems column items ++ lines)), p, true, [], []⟩ =
        some (nodes, firstToken lines line) := by
  obtain ⟨c, rest, starts, content⟩ := first.starts column
  cases fuel with
  | zero => omega
  | succ fuel =>
      obtain ⟨n, line, shown, start, item⟩ :=
        @first.reads fuel column (if loose then .looseItem else .item) (p.move 2) _ _
          (by rw [Position.column_move, here]) (follows_items items follows) (by omega)
      obtain ⟨nodes, last, more, finish, run⟩ :=
        @others fuel column loose line lines start follows (by omega)
      refine ⟨n :: nodes, last, .cons shown more, finish, ?_⟩
      apply readItems_dash here _ run
      rw [starts] at item
      rwa [starts, List.cons_append, behind_blank content]

theorem readsItems {items : List Json} (reads : ∀ item ∈ items, ReadsItem item) :
    ReadsItems items := by
  induction items with
  | nil =>
      intro fuel column loose p lines start follows enough
      cases fuel with
      | zero => omega
      | succ fuel => exact ⟨[], p, .nil, start, readItems_end follows start⟩
  | cons v items ih =>
      intro fuel column loose p lines start follows enough
      have first := reads v (List.mem_cons_self ..)
      have others : ReadsItems items :=
        ih fun item member => reads item (List.mem_cons_of_mem v member)
      rw [printedItems] at enough ⊢
      simp only [List.append_assoc, List.length_append, List.length_cons, List.cons_append,
        List.nil_append] at enough ⊢
      rw [firstToken_margin column .dash]
      apply first.exists_readItems others _ follows (by omega)
      rw [Position.column_move, start, Nat.zero_add]

theorem readListNode_eq {loose : Bool} {cs : List Char} {nodes : List Node} {after : Cursor}
    (here : p.column = column)
    (items : readItems fuel loose column ⟨cs, p, b, [], []⟩ = some (nodes, after)) :
    readListNode (fuel + 1) loose {} ⟨cs, p, b, [], []⟩ = some (.list .yaml nodes, after) := by
  rw [readListNode]
  simp [Cursor.remember, Cursor.column, here, items]

/-- A list may stand at the column of the map whose entry it belongs to. -/
theorem readNode_looseList {rest : List Char} {nodes : List Node} {after : Cursor}
    (here : p.column = column)
    (items : readItems fuel true column ⟨'-' :: ' ' :: rest, p, b, [], []⟩ =
      some (nodes, after)) :
    readNode (fuel + 2) (column + 1) .value {} ⟨'-' :: ' ' :: rest, p, b, [], []⟩ =
      some (.list .yaml nodes, after) := by
  have noMark : startsMark ('-' :: ' ' :: rest) = false := rfl
  have dash : startsIndicator '-' ('-' :: ' ' :: rest) = true := rfl
  rw [readNode]
  simp [Cursor.atDocumentEnd, Cursor.column, noMark, dash, startsIndented, Slot.takesLooseList,
    here, readListNode_eq here items]

/-- Any other list stands behind the column of the collection around it. -/
theorem readNode_list {rest : List Char} {nodes : List Node} {after : Cursor}
    (here : p.column = column) (inside : floor < column + 1)
    (items : readItems fuel false column ⟨'-' :: ' ' :: rest, p, true, [], []⟩ =
      some (nodes, after)) :
    readNode (fuel + 2) floor slot {} ⟨'-' :: ' ' :: rest, p, true, [], []⟩ =
      some (.list .yaml nodes, after) := by
  have noMark : startsMark ('-' :: ' ' :: rest) = false := rfl
  have dash : startsIndicator '-' ('-' :: ' ' :: rest) = true := rfl
  have notLeft : ¬ column + 1 < floor := Nat.not_lt.mpr (Nat.le_of_lt inside)
  rw [readNode]
  simp [Cursor.atDocumentEnd, Cursor.column, noMark, dash, startsIndented, notLeft,
    Nat.ne_of_gt inside, here, readListNode_eq here items]

theorem readsValue_array {v : Json} {items : List Json}
    (reads : ∀ item ∈ v :: items, ReadsItem item) : ReadsValue (.array (v :: items)) := by
  intro fuel column p b lines inside follows enough
  rw [printedValue, List.length_cons] at enough
  have more : ∃ less, fuel = less + 2 := ⟨fuel - 2, by omega⟩
  obtain ⟨less, rfl⟩ := more
  obtain ⟨nodes, last, shown, start, run⟩ :=
    @readsItems _ reads less column true ((p.move 1).nextLine 1) lines rfl
      (follows.imp (Nat.le_refl _) fun _ _ noItem => .inr ⟨rfl, noItem⟩) (by omega)
  refine ⟨.list .yaml nodes, last, .array shown, start, ?_⟩
  rw [printedValue, List.cons_append, behind_newLine, printedItems]
  rw [printedItems] at run
  simp only [List.append_assoc, List.cons_append, List.nil_append] at run ⊢
  rw [firstToken_margin column .dash] at run ⊢
  exact readNode_looseList (Nat.zero_add column) run

theorem readsItem_array {v : Json} {items : List Json}
    (reads : ∀ item ∈ v :: items, ReadsItem item) : ReadsItem (.array (v :: items)) := by
  constructor
  · intro column
    exact ⟨'-', _, by rw [printedItem]; rfl, by decide, by decide, by decide⟩
  · intro fuel column slot p ends lines here follows enough
    have first := reads v (List.mem_cons_self ..)
    have others : ReadsItems items :=
      readsItems fun item member => reads item (List.mem_cons_of_mem v member)
    rw [printedItem] at enough ⊢
    simp only [List.append_assoc, List.length_append, List.length_cons, List.cons_append,
      List.nil_append] at enough ⊢
    have more : ∃ less, fuel = less + 2 := ⟨fuel - 2, by omega⟩
    obtain ⟨less, rfl⟩ := more
    obtain ⟨nodes, last, shown, start, run⟩ :=
      @ReadsItem.exists_readItems less (column + 2) p lines v items first others false here
        (follows.imp (Nat.le_add_right _ _) fun same => absurd same (by omega)) (by omega)
    refine ⟨.list .yaml nodes, last, .array shown, start, ?_⟩
    exact readNode_list here (by omega) run

/-! ## Keys -/

section Keys

variable {name : String} {rest : List Char}

theorem exists_cons_of_isWord (word : IsWord name) :
    ∃ c cs, name.toList = c :: cs ∧ c.isAlpha = true := by
  obtain ⟨some_char, letters, -⟩ := word
  cases text : name.toList with
  | nil => exact absurd (String.toList_eq_nil_iff.mp text) some_char
  | cons c cs =>
      rw [text] at letters
      exact ⟨c, cs, rfl, List.all_eq_true.mp letters c (List.mem_cons_self ..)⟩

theorem isPlainLine_of_isWord (word : IsWord name) : IsPlainLine name.toList := by
  obtain ⟨c, cs, text, -⟩ := exists_cons_of_isWord word
  apply isPlainLine_of_isAlpha
  · rw [text]
    exact List.cons_ne_nil c cs
  · exact List.all_eq_true.mp word.2.1

/-- A word is written without quotes. -/
theorem writtenKey_of_isWord (word : IsWord name) : writtenKey name = name.toList := by
  have fits : fitsPlain name.toList = true :=
    fitsPlain_of_isAlpha (by simpa using word.1) (List.all_eq_true.mp word.2.1)
  have style : lineStyle name = .plain := by
    rw [lineStyle, fits, word.2.2.2]
    rfl
  unfold writtenKey
  rw [style]

theorem startsToken_of_isWord (word : IsWord name) : StartsToken (name.toList ++ rest) := by
  obtain ⟨c, cs, text, letter⟩ := exists_cons_of_isWord word
  rw [text]
  exact .word letter

theorem noItem_of_isWord (word : IsWord name) : NoItem (name.toList ++ rest) := by
  obtain ⟨c, cs, text, letter⟩ := exists_cons_of_isWord word
  have noDash : c ≠ '-' := ne_of_isAlpha letter (by decide)
  rw [text]
  simp [NoItem, startsIndicator, noDash]

theorem noMark_of_isWord (word : IsWord name) :
    (p.column == 0 && startsMark (name.toList ++ rest)) = false := by
  obtain ⟨c, cs, text, letter⟩ := exists_cons_of_isWord word
  rw [text, List.cons_append, startsMark_of_isAlpha letter, Bool.and_false]

/-- A key is read up to its colon. -/
theorem readKey_of_isWord (word : IsWord name) (blank : startsBlank rest = true) :
    readKey floor {} ⟨name.toList ++ ':' :: rest, p, b, [], []⟩ =
      some (scalarNode name.toList .plain {},
        ⟨':' :: rest, p.move name.length, false, [], []⟩) := by
  have line := isPlainLine_of_isWord word
  have scalar : readFlowScalar? false floor ⟨name.toList ++ ':' :: rest, p, b, [], []⟩ =
      some (name.toList, .plain, ⟨':' :: rest, p.move name.length, false, [], []⟩) := by
    rw [readFlowScalar?_plain line (noMark_of_isWord word), readPlain_colon blank,
      Option.map_some, List.append_nil, String.length_toList]
  have starts := startsScalar_of_startsPlain line.starts (':' :: rest)
  have colon : IsContentStart ':' := ⟨by decide, by decide, by decide⟩
  rw [readKey_eq (readCompact_scalar starts scalar), Cursor.toToken]
  simp only [Cursor.toTokenFrom_content colon rfl]

/-- A key may stand in front of its colon. -/
theorem endsKey_of_isWord (word : IsWord name) (cs : List Char) :
    Cursor.endsKey ⟨cs, p, true, [], []⟩ ⟨':' :: rest, p.move name.length, false, [], []⟩ =
      true := by
  have short : name.length ≤ 64 := word.2.2.1
  have within : p.index + name.length ≤ p.index + 1024 := by omega
  simp [Cursor.endsKey, Cursor.line, within]

end Keys

/-! ## Maps -/

theorem startsBlank_printedValue (column : Nat) (v : Json) (lines : List Char) :
    startsBlank (printedValue column v ++ lines) = true := by
  cases v with
  | array items =>
      cases items with
      | nil => rfl
      | cons v rest => rfl
  | object fields =>
      cases fields with
      | nil => rfl
      | cons f rest => rfl
  | _ => rfl

/-- An entry is read when its value is. -/
theorem readEntry_of_isWord {name : String} {rest : List Char} {n : Node} {after : Cursor}
    (word : IsWord name) (blank : startsBlank rest = true)
    (value : readNode fuel (column + 1) .value {}
      (Cursor.behind ⟨':' :: rest, p.move name.length, false, [], []⟩ false false) =
        some (n, after)) :
    readEntry (fuel + 1) column ⟨name.toList ++ ':' :: rest, p, true, [], []⟩ =
      some ((scalarNode name.toList .plain {}, n), after) := by
  have starts := startsScalar_of_startsPlain (isPlainLine_of_isWord word).starts (':' :: rest)
  have colon : startsIndicator ':' (':' :: rest) = true := blank
  rw [readEntry, starts.noQuery]
  simp [properties?_of_startsCompact starts.toStartsCompact, readKey_of_isWord word blank, colon,
    endsKey_of_isWord word, value]

/-- A map is read when the value of its first entry and the entries behind that are. -/
theorem readContent_of_isWord {name : String} {rest : List Char} {n : Node}
    {entries : List (Node × Node)} {after last : Cursor} (word : IsWord name)
    (blank : startsBlank rest = true)
    (value : readNode fuel (p.column + 1) .value {}
      (Cursor.behind ⟨':' :: rest, p.move name.length, false, [], []⟩ false false) =
        some (n, after))
    (others : readEntries fuel p.column after = some (entries, last)) :
    readContent (fuel + 1) floor slot {} ⟨name.toList ++ ':' :: rest, p, true, [], []⟩ =
      some (.map .yaml ((scalarNode name.toList .plain {}, n) :: entries), last) := by
  have starts := startsScalar_of_startsPlain (isPlainLine_of_isWord word).starts (':' :: rest)
  have colon : startsIndicator ':' (':' :: rest) = true := blank
  rw [readContent, properties?_of_startsCompact starts.toStartsCompact]
  simp [starts.noBlock, readKey_of_isWord word blank, colon, Properties.isEmpty,
    endsKey_of_isWord word, value, others, Cursor.line, Cursor.column, Cursor.remember]

/-- The reader of a map stops at the end of the text and in front of its column. -/
theorem readEntries_end (follows : Follows column (· = []) lines) (start : p.column = 0) :
    readEntries (fuel + 1) column (firstToken lines p) = some ([], firstToken lines p) := by
  cases follows with
  | @mk k next token left same =>
      have here : Cursor.column ⟨next, p.move k, true, [], []⟩ = k := by
        rw [Cursor.column, Position.column_move, start, Nat.zero_add]
      rw [firstToken_margin k token, readEntries, here]
      rcases Nat.lt_or_eq_of_le left with less | meets
      · simp [less]
      · simp [Cursor.atDocumentEnd, same meets]

theorem readEntries_of_isWord {name : String} {rest : List Char} {entry : Node × Node}
    {entries : List (Node × Node)} {after last : Cursor} (word : IsWord name)
    (here : p.column = column)
    (first : readEntry fuel column ⟨name.toList ++ rest, p, b, [], []⟩ = some (entry, after))
    (others : readEntries fuel column after = some (entries, last)) :
    readEntries (fuel + 1) column ⟨name.toList ++ rest, p, b, [], []⟩ =
      some (entry :: entries, last) := by
  have noEnd : Cursor.atDocumentEnd ⟨name.toList ++ rest, p, b, [], []⟩ = false := by
    apply not_atDocumentEnd _ (noMark_of_isWord word)
    simp [word.1]
  have column' : Cursor.column ⟨name.toList ++ rest, p, b, [], []⟩ = column := here
  rw [readEntries, noEnd, column']
  simp [first, others]

/-- The lines of an entry. -/
theorem printedEntries_cons {name : String} (word : IsWord name) (v : Json)
    (rest : List (String × Json)) (lines : List Char) :
    printedEntries column ((name, v) :: rest) ++ lines =
      margin column ++ (name.toList ++
        ':' :: (printedValue column v ++ (printedEntries column rest ++ lines))) := by
  rw [printedEntries, printedEntry, writtenKey_of_isWord word]
  simp only [List.append_assoc, List.cons_append]

theorem length_printedEntries_cons (name : String) (v : Json) (rest : List (String × Json)) :
    (printedValue column v).length + (printedEntries column rest).length + 1 ≤
      (printedEntries column ((name, v) :: rest)).length := by
  rw [printedEntries, printedEntry]
  simp only [List.length_append, List.length_cons]
  omega

theorem follows_entries {fields : List (String × Json)} (keys : ∀ f ∈ fields, IsWord f.1)
    (follows : Follows column (· = []) lines) :
    Follows column NoItem (printedEntries column fields ++ lines) := by
  cases fields with
  | nil =>
      apply follows.imp (Nat.le_refl _)
      rintro - next rfl
      rfl
  | cons f rest =>
      obtain ⟨name, v⟩ := f
      have word := keys _ (List.mem_cons_self ..)
      rw [printedEntries_cons word]
      exact .mk (startsToken_of_isWord word) (Nat.le_refl _) fun _ => noItem_of_isWord word

/-- The entries of a map are read one after the other, from the start of their lines. -/
theorem exists_readEntries {fields : List (String × Json)} (keys : ∀ f ∈ fields, IsWord f.1)
    (reads : ∀ f ∈ fields, ReadsValue f.2) (start : p.column = 0)
    (follows : Follows column (· = []) lines)
    (enough : 4 * (printedEntries column fields).length + 1 ≤ fuel) :
    ∃ entries line, ShowsFields fields entries ∧ line.column = 0 ∧
      readEntries fuel column (firstToken (printedEntries column fields ++ lines) p) =
        some (entries, firstToken lines line) := by
  induction fields generalizing fuel p with
  | nil =>
      cases fuel with
      | zero => omega
      | succ fuel => exact ⟨[], p, .nil, start, readEntries_end follows start⟩
  | cons f rest ih =>
      obtain ⟨name, v⟩ := f
      have word := keys _ (List.mem_cons_self ..)
      have first : ReadsValue v := reads _ (List.mem_cons_self ..)
      have later : ∀ f ∈ rest, IsWord f.1 := fun f member => keys f (List.mem_cons_of_mem _ member)
      have shorter := @length_printedEntries_cons column name v rest
      have more : ∃ less, fuel = less + 2 := ⟨fuel - 2, by omega⟩
      obtain ⟨less, rfl⟩ := more
      have here : (p.move column).column = column := by
        rw [Position.column_move, start, Nat.zero_add]
      obtain ⟨n, line, shown, begins, value⟩ :=
        @first less column ((p.move column).move name.length) false _
          (by rw [Position.column_move, here]; omega) (follows_entries later follows) (by omega)
      obtain ⟨entries, last, others, ends, run⟩ :=
        @ih (less + 1) line later (fun f member => reads f (List.mem_cons_of_mem _ member)) begins
          (by omega)
      refine ⟨(scalarNode name.toList .plain {}, n) :: entries, last,
        .cons (shows_plainText word.2.2.2) shown others, ends, ?_⟩
      rw [printedEntries_cons word, firstToken_margin column (startsToken_of_isWord word)]
      exact readEntries_of_isWord word here
        (readEntry_of_isWord word (startsBlank_printedValue column v _) value) run

/-- From its first key on a map is read. -/
theorem reads_map {name : String} {v : Json} {rest : List (String × Json)} (word : IsWord name)
    (keys : ∀ f ∈ rest, IsWord f.1) (first : ReadsValue v) (reads : ∀ f ∈ rest, ReadsValue f.2)
    (here : p.column = column) (inside : floor < column + 1)
    (follows : Follows column (· = []) lines)
    (enough : 4 * (printedValue column v).length + 4 * (printedEntries column rest).length + 3 ≤
      fuel) :
    Reads (.object ((name, v) :: rest)) lines (readNode fuel floor slot {}
      ⟨name.toList ++ ':' :: (printedValue column v ++ (printedEntries column rest ++ lines)),
        p, true, [], []⟩) := by
  have more : ∃ less, fuel = less + 2 := ⟨fuel - 2, by omega⟩
  obtain ⟨less, rfl⟩ := more
  have starts := startsScalar_of_startsPlain (isPlainLine_of_isWord word).starts
    (':' :: (printedValue column v ++ (printedEntries column rest ++ lines)))
  obtain ⟨n, line, shown, begins, value⟩ :=
    @first less column (p.move name.length) false _ (by rw [Position.column_move, here]; omega)
      (follows_entries keys follows) (by omega)
  obtain ⟨entries, last, others, ends, run⟩ :=
    @exists_readEntries less column line lines rest keys reads begins follows (by omega)
  subst here
  refine ⟨.map .yaml ((scalarNode name.toList .plain {}, n) :: entries), last,
    .object (.cons (shows_plainText word.2.2.2) shown others), ends, ?_⟩
  rw [readNode_eq_readContent starts.toStartsCompact inside (noMark_of_isWord word)]
  exact readContent_of_isWord word (startsBlank_printedValue _ v _) value run

section Objects

variable {f : String × Json} {rest : List (String × Json)}

theorem readsValue_object (keys : ∀ g ∈ f :: rest, IsWord g.1)
    (reads : ∀ g ∈ f :: rest, ReadsValue g.2) : ReadsValue (.object (f :: rest)) := by
  intro fuel column p b lines inside follows enough
  obtain ⟨name, v⟩ := f
  have word : IsWord name := keys _ (List.mem_cons_self ..)
  have first : ReadsValue v := reads _ (List.mem_cons_self ..)
  have shorter := @length_printedEntries_cons (column + 2) name v rest
  rw [printedValue, List.length_cons] at enough
  rw [printedValue, List.cons_append, behind_newLine, printedEntries_cons word,
    firstToken_margin (column + 2) (startsToken_of_isWord word)]
  apply reads_map word (fun g member => keys g (List.mem_cons_of_mem _ member)) first
    (fun g member => reads g (List.mem_cons_of_mem _ member))
  · exact Nat.zero_add (column + 2)
  · omega
  · exact follows.imp (Nat.le_add_right _ _) fun same => absurd same (by omega)
  · omega

theorem readsItem_object (keys : ∀ g ∈ f :: rest, IsWord g.1)
    (reads : ∀ g ∈ f :: rest, ReadsValue g.2) : ReadsItem (.object (f :: rest)) := by
  obtain ⟨name, v⟩ := f
  have word : IsWord name := keys _ (List.mem_cons_self ..)
  have first : ReadsValue v := reads _ (List.mem_cons_self ..)
  constructor
  · intro column
    obtain ⟨c, cs, text, letter⟩ := exists_cons_of_isWord word
    have token : StartsToken (c :: cs) := .word letter
    refine ⟨c, cs ++ ':' :: printedValue (column + 2) v ++ printedEntries (column + 2) rest, ?_,
      token.isTokenStart.toIsContentStart⟩
    rw [printedItem, writtenKey_of_isWord word, text]
    rfl
  · intro fuel column slot p ends lines here follows enough
    rw [printedItem, writtenKey_of_isWord word] at enough ⊢
    simp only [List.append_assoc, List.length_append, List.length_cons, List.cons_append]
      at enough ⊢
    have some_char : 0 < name.toList.length := by
      obtain ⟨c, cs, text, -⟩ := exists_cons_of_isWord word
      rw [text]
      exact Nat.succ_pos _
    apply reads_map word (fun g member => keys g (List.mem_cons_of_mem _ member)) first
      (fun g member => reads g (List.mem_cons_of_mem _ member)) here
    · omega
    · exact follows.imp (Nat.le_add_right _ _) fun same => absurd same (by omega)
    · omega

end Objects

/-! ## Values -/

/-- Every value that documents are written with is read back, behind a key as well as behind the
dash of an item. -/
theorem reads_of_isGiven {v : Json} (given : v.IsGiven IsWord) : ReadsValue v ∧ ReadsItem v := by
  induction given with
  | text s =>
      have leaf := readsLeaf_text s
      exact ⟨leaf.readsValue fun _ => rfl, leaf.readsItem fun _ => rfl⟩
  | bool flag =>
      have leaf := readsLeaf_bool flag
      cases flag <;> exact ⟨leaf.readsValue fun _ => rfl, leaf.readsItem fun _ => rfl⟩
  | int fits =>
      have leaf := readsLeaf_int fits
      exact ⟨leaf.readsValue fun _ => rfl, leaf.readsItem fun _ => rfl⟩
  | @array items _ ih =>
      cases items with
      | nil =>
          exact ⟨readsLeaf_noItems.readsValue fun _ => rfl, readsLeaf_noItems.readsItem fun _ => rfl⟩
      | cons v rest =>
          have reads : ∀ item ∈ v :: rest, ReadsItem item := fun item member => (ih item member).2
          exact ⟨readsValue_array reads, readsItem_array reads⟩
  | @object fields keys _ ih =>
      cases fields with
      | nil =>
          exact ⟨readsLeaf_noFields.readsValue fun _ => rfl,
            readsLeaf_noFields.readsItem fun _ => rfl⟩
      | cons f rest =>
          have reads : ∀ g ∈ f :: rest, ReadsValue g.2 := fun g member => (ih g member).1
          exact ⟨readsValue_object keys reads, readsItem_object keys reads⟩

end ComponentGen.Yaml

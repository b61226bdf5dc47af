import ComponentGen.Proofs.Yaml.Collections

/-!
# Written YAML documents read back

All characters of a written text are printable, so a YAML text may consist of them.  The map at
the root is read from its first key to the end of the text, where the document ends.
-/

namespace ComponentGen.Yaml

open Number

/-! ## Characters -/

/-- Texts of printable characters. -/
def AllPrintable (cs : List Char) : Prop := ∀ c ∈ cs, isPrintable c = true

namespace AllPrintable

variable {c : Char} {cs ds : List Char}

theorem nil : AllPrintable [] := by
  intro c member
  cases member

theorem cons (first : isPrintable c = true) (others : AllPrintable cs) :
    AllPrintable (c :: cs) := by
  intro d member
  rcases List.mem_cons.mp member with rfl | later
  · exact first
  · exact others d later

theorem append (front : AllPrintable cs) (back : AllPrintable ds) : AllPrintable (cs ++ ds) := by
  intro c member
  rcases List.mem_append.mp member with left | right
  · exact front c left
  · exact back c right

theorem margin (k : Nat) : AllPrintable (margin k) := by
  intro c member
  rw [List.eq_of_mem_replicate member]
  rfl

end AllPrintable

theorem isAllowed_of_isPrintable {c : Char} (printable : isPrintable c = true) :
    isAllowed c = true := by
  by_cases feed : c = '\n'
  · rw [feed]
    rfl
  · simp only [isPrintable, isAllowed, Bool.or_eq_true, Bool.and_eq_true, decide_eq_true_eq,
      beq_iff_eq, feed, false_or] at printable ⊢
    omega

theorem isPrintable_upperHexDigit : ∀ n < 16, isPrintable (upperHexDigit n) = true := by
  decide

theorem allPrintable_hexText (digits n : Nat) : AllPrintable (hexText digits n) := by
  induction digits generalizing n with
  | zero => exact .nil
  | succ digits ih =>
      apply AllPrintable.append (ih (n / 16))
      exact .cons (isPrintable_upperHexDigit _ (Nat.mod_lt n (by decide))) .nil

theorem allPrintable_escape (c : Char) : AllPrintable (escape c) := by
  unfold escape
  split
  case isTrue ordinary =>
    simp only [Bool.and_eq_true] at ordinary
    exact .cons ordinary.1.1.1 .nil
  case isFalse =>
    apply AllPrintable.cons rfl
    split
    case h_15 =>
      split
      · exact .cons rfl (allPrintable_hexText 2 _)
      · split
        · exact .cons rfl (allPrintable_hexText 4 _)
        · exact .cons rfl (allPrintable_hexText 8 _)
    all_goals exact .cons rfl .nil

theorem allPrintable_doubleQuoted (cs : List Char) : AllPrintable (doubleQuoted cs) := by
  have content : AllPrintable (cs.flatMap escape) := by
    intro c member
    obtain ⟨d, -, escaped⟩ := List.mem_flatMap.mp member
    exact allPrintable_escape d c escaped
  exact .append (.cons rfl content) (.cons rfl .nil)

theorem allPrintable_singleContent {cs : List Char} (printable : AllPrintable cs) (indent : Nat)
    (afterBreak : Bool) : AllPrintable (singleContent indent afterBreak cs) := by
  have lineMargin (afterBreak : Bool) :
      AllPrintable (if afterBreak then margin indent else []) := by
    cases afterBreak with
    | true => exact .margin indent
    | false => exact .nil
  induction cs generalizing afterBreak with
  | nil => exact lineMargin afterBreak
  | cons c cs ih =>
      have first := printable c (List.mem_cons_self ..)
      have later : AllPrintable cs := fun d member => printable d (List.mem_cons_of_mem c member)
      rw [singleContent]
      split
      · exact .cons first (ih later true)
      · apply AllPrintable.append _ (ih later false)
        apply AllPrintable.append (lineMargin afterBreak)
        split
        · exact .cons rfl (.cons rfl .nil)
        · exact .cons first .nil

theorem allPrintable_literalLines {cs : List Char} (printable : AllPrintable cs) (indent : Nat)
    (lineStart : Bool) : AllPrintable (literalLines indent lineStart cs) := by
  induction cs generalizing lineStart with
  | nil =>
      cases lineStart with
      | true => exact .nil
      | false => exact .cons rfl .nil
  | cons c cs ih =>
      have first := printable c (List.mem_cons_self ..)
      have later : AllPrintable cs := fun d member => printable d (List.mem_cons_of_mem c member)
      rw [literalLines]
      split
      · exact .cons first (ih later true)
      · apply AllPrintable.append _ (.cons first (ih later false))
        cases lineStart with
        | true => exact .margin indent
        | false => exact .nil

theorem allPrintable_writtenText (indent : Nat) (s : String) :
    AllPrintable (writtenText indent s) := by
  have keeps := textStyle_keeps s
  rw [writtenText]
  cases style : textStyle s with
  | plain =>
      rw [style] at keeps
      have fits := keeps.1
      simp only [fitsPlain, keepsCharacters, Bool.and_eq_true, List.all_eq_true] at fits
      exact .append fits.1.1.1.1.1.1 (.cons rfl .nil)
  | singleQuoted =>
      rw [style] at keeps
      have content := allPrintable_singleContent keeps.printable indent false
      exact .append (.append (.cons rfl content) (.cons rfl .nil)) (.cons rfl .nil)
  | doubleQuoted => exact .append (allPrintable_doubleQuoted _) (.cons rfl .nil)
  | literal =>
      rw [style] at keeps
      have signs : AllPrintable (indentationSign s.toList) ∧
          AllPrintable (chompingSign s.toList) := by
        constructor
        · rcases indentationSign_cases s.toList with sign | sign <;> rw [sign]
          · exact .nil
          · exact .cons rfl .nil
        · rcases chompingSign_cases s.toList with sign | sign | sign <;> rw [sign]
          · exact .cons rfl .nil
          · exact .cons rfl .nil
          · exact .nil
      apply AllPrintable.append (.append (.cons rfl signs.1) signs.2)
      exact .cons rfl (allPrintable_literalLines keeps.2 indent true)

theorem allPrintable_intText (n : Int) : AllPrintable (intText n).toList := by
  have digits (k : Nat) : AllPrintable (natDigits k) := by
    intro c member
    have range := range_of_isDigit (isDigit_of_mem_natDigits member)
    have ascii : 0x20 ≤ c.toNat ∧ c.toNat ≤ 0x7E := by omega
    simp [isPrintable, ascii]
  cases n with
  | ofNat k =>
      rw [intText, String.toList_ofList]
      exact digits k
  | negSucc k =>
      rw [intText, String.toList_ofList]
      exact .cons rfl (digits (k + 1))

/-- The text of a value without parts. -/
theorem allPrintable_printedLeaf {v : Json} (given : v.IsGiven IsWord) (indent : Nat) :
    AllPrintable (printedLeaf indent v) := by
  cases given with
  | text s => exact allPrintable_writtenText indent s
  | bool flag =>
      have texts : ("true\n".toList).all isPrintable = true ∧
          ("false\n".toList).all isPrintable = true := by decide
      cases flag with
      | true => exact List.all_eq_true.mp texts.1
      | false => exact List.all_eq_true.mp texts.2
  | int _ => exact .append (allPrintable_intText _) (.cons rfl .nil)
  | array _ => exact .cons rfl (.cons rfl (.cons rfl .nil))
  | object _ _ => exact .cons rfl (.cons rfl (.cons rfl .nil))

theorem allPrintable_printedItems {items : List Json}
    (printable : ∀ item ∈ items, ∀ column, AllPrintable (printedItem column item))
    (column : Nat) : AllPrintable (printedItems column items) := by
  induction items with
  | nil => exact .nil
  | cons v rest ih =>
      rw [printedItems]
      apply AllPrintable.append _ (ih fun item member =>
        printable item (List.mem_cons_of_mem v member))
      apply AllPrintable.append _ (printable v (List.mem_cons_self ..) column)
      exact .append (.margin column) (.cons rfl (.cons rfl .nil))

theorem allPrintable_writtenKey {name : String} (word : IsWord name) :
    AllPrintable (writtenKey name) := by
  rw [writtenKey_of_isWord word]
  intro c member
  exact isPrintable_of_isAlpha (List.all_eq_true.mp word.2.1 c member)

theorem allPrintable_printedEntries {fields : List (String × Json)}
    (keys : ∀ f ∈ fields, IsWord f.1)
    (printable : ∀ f ∈ fields, ∀ column, AllPrintable (printedValue column f.2))
    (column : Nat) : AllPrintable (printedEntries column fields) := by
  induction fields with
  | nil => exact .nil
  | cons f rest ih =>
      obtain ⟨name, v⟩ := f
      have key := allPrintable_writtenKey (keys _ (List.mem_cons_self ..))
      have value := printable _ (List.mem_cons_self ..) column
      rw [printedEntries, printedEntry]
      apply AllPrintable.append _ (ih (fun f member => keys f (List.mem_cons_of_mem _ member))
        fun f member => printable f (List.mem_cons_of_mem _ member))
      exact .append (.append (.margin column) key) (.cons rfl value)

/-- All characters of a value are printable, behind a key as well as behind a dash. -/
theorem allPrintable_of_isGiven {v : Json} (given : v.IsGiven IsWord) :
    (∀ column, AllPrintable (printedValue column v)) ∧
      ∀ column, AllPrintable (printedItem column v) := by
  have leaf := allPrintable_printedLeaf given
  induction given with
  | text s => exact ⟨fun column => .cons rfl (leaf _), fun column => leaf _⟩
  | bool flag =>
      cases flag <;> exact ⟨fun column => .cons rfl (leaf _), fun column => leaf _⟩
  | int _ => exact ⟨fun column => .cons rfl (leaf _), fun column => leaf _⟩
  | @array items given ih =>
      cases items with
      | nil => exact ⟨fun column => .cons rfl (leaf _), fun column => leaf _⟩
      | cons v rest =>
          have items : ∀ item ∈ v :: rest, ∀ column, AllPrintable (printedItem column item) :=
            fun item member => (ih item member (allPrintable_printedLeaf (given item member))).2
          constructor
          · intro column
            exact .cons rfl (allPrintable_printedItems items column)
          · intro column
            have others := allPrintable_printedItems (fun item member =>
              items item (List.mem_cons_of_mem v member)) (column + 2)
            rw [printedItem]
            apply AllPrintable.append _ others
            exact .append (.cons rfl (.cons rfl .nil)) (items v (List.mem_cons_self ..) _)
  | @object fields keys given ih =>
      cases fields with
      | nil => exact ⟨fun column => .cons rfl (leaf _), fun column => leaf _⟩
      | cons f rest =>
          obtain ⟨name, v⟩ := f
          have values : ∀ g ∈ (name, v) :: rest, ∀ column, AllPrintable (printedValue column g.2) :=
            fun g member => (ih g member (allPrintable_printedLeaf (given g member))).1
          constructor
          · intro column
            exact .cons rfl (allPrintable_printedEntries keys values (column + 2))
          · intro column
            have key := allPrintable_writtenKey (keys _ (List.mem_cons_self ..))
            have others := allPrintable_printedEntries
              (fun g member => keys g (List.mem_cons_of_mem _ member))
              (fun g member => values g (List.mem_cons_of_mem _ member)) (column + 2)
            rw [printedItem]
            exact .append (.append key (.cons rfl (values _ (List.mem_cons_self ..) _))) others

/-! ## The root -/

/-- A text that starts with a key has no directives. -/
theorem readRoot?_of_isWord {name : String} (word : IsWord name) (rest : List Char) :
    readRoot? ⟨name.toList ++ rest, {}, true, [], []⟩ =
      readNode (fuelFor (name.toList ++ rest)) 0 .document {}
        ⟨name.toList ++ rest, {}, true, [], []⟩ := by
  obtain ⟨c, cs, starts, letter⟩ := exists_cons_of_isWord word
  have noDirective : c ≠ '%' := ne_of_isAlpha letter (by decide)
  have noMark : startsMark (c :: (cs ++ rest)) = false := startsMark_of_isAlpha letter _
  rw [starts, List.cons_append, readRoot?]
  simp [noDirective, noMark, Cursor.column, Cursor.atDocumentEnd]

/-- A text that starts with a key is read as the map that stands there. -/
theorem read?_of_isWord {name s : String} {rest : List Char} {n : Node} {p : Position}
    (word : IsWord name) (text : s.toList = name.toList ++ rest) (printable : AllPrintable s.toList)
    (run : readNode (fuelFor s.toList) 0 .document {} ⟨s.toList, {}, true, [], []⟩ =
      some (n, firstToken [] p)) :
    read? s = some n := by
  have root := readRoot?_of_isWord word rest
  have token : StartsToken s.toList := text ▸ startsToken_of_isWord word
  have allowed : s.toList.all isAllowed = true :=
    List.all_eq_true.mpr fun c member => isAllowed_of_isPrintable (printable c member)
  have cursor : Cursor.toToken false { rest := s.toList } = ⟨s.toList, {}, true, [], []⟩ :=
    toToken_token token
  have finished : firstToken [] p = ⟨[], p, true, [], []⟩ := toToken_token .nil
  rw [← text, run, finished] at root
  have noByteMark : s.toList.head? ≠ some '\uFEFF' := by
    obtain ⟨c, cs, starts, letter⟩ := exists_cons_of_isWord word
    simpa [text, starts] using ne_of_isAlpha letter (by decide)
  rw [read?]
  split
  case h_1 same => exact absurd (congrArg List.head? same) noByteMark
  case h_2 => simp [allowed, cursor, root, endsDocument]

/-- The text of a map with entries starts with the key of the first one. -/
theorem toList_print_object {name : String} (word : IsWord name) (v : Json)
    (rest : List (String × Json)) :
    (print (.object ((name, v) :: rest))).toList =
      name.toList ++ ':' :: (printedValue 0 v ++ printedEntries 0 rest) := by
  have entries := @printedEntries_cons 0 name word v rest []
  rw [List.append_nil, List.append_nil] at entries
  rw [print, String.toList_ofList, entries]
  rfl

/-- A map that documents are written with is read back from its text. -/
theorem exists_read?_print {fields : List (String × Json)}
    (given : (Json.object fields).IsGiven IsWord) :
    ∃ n, read? (print (.object fields)) = some n ∧ Shows (.object fields) n := by
  cases given with
  | object keys given =>
  cases fields with
  | nil => exact ⟨.map .yaml [], rfl, .object .nil⟩
  | cons f rest =>
      obtain ⟨name, v⟩ := f
      have word : IsWord name := keys _ (List.mem_cons_self ..)
      have reads : ∀ g ∈ (name, v) :: rest, ReadsValue g.2 := fun g member =>
        (reads_of_isGiven (given g member)).1
      have text := toList_print_object word v rest
      have printable : AllPrintable (print (.object ((name, v) :: rest))).toList := by
        rw [print, String.toList_ofList]
        exact allPrintable_printedEntries keys
          (fun g member => (allPrintable_of_isGiven (given g member)).1) 0
      have ends : Follows 0 (· = []) [] := @Follows.mk 0 _ 0 [] .nil (Nat.le_refl 0) fun _ => rfl
      obtain ⟨n, p, shown, -, run⟩ := @reads_map
        (fuelFor (print (.object ((name, v) :: rest))).toList) 0 0 .document {} [] name v rest word
        (fun g member => keys g (List.mem_cons_of_mem _ member)) (reads _ (List.mem_cons_self ..))
        (fun g member => reads g (List.mem_cons_of_mem _ member)) rfl (Nat.succ_pos 0) ends
        (by
          rw [text, fuelFor]
          simp only [List.length_append, List.length_cons]
          omega)
      refine ⟨n, ?_, shown⟩
      rw [List.append_nil, ← text] at run
      exact read?_of_isWord word text printable run

end ComponentGen.Yaml

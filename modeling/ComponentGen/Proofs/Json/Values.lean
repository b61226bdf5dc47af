import ComponentGen.Proofs.Data.Shown
import ComponentGen.Proofs.Json.Texts

/-!
# JSON values read back

The printed text of a value is read as the node of the value.  Every value is read from its own
printed text whatever follows it, as long as that does not continue a number, and a reader that
may make twice as many calls as the text has characters makes enough.
-/

namespace ComponentGen.Json

open Number Text

variable {named : String → Prop}

/-! ## Between the values -/

theorem skipSpace_newLine (indent : Nat) {cs : List Char}
    (starts : ∀ c ∈ cs.head?, isSpace c = false) : skipSpace (newLine indent ++ cs) = cs := by
  have blank : ∀ c ∈ newLine indent, isSpace c = true := by
    intro c member
    rcases List.mem_cons.mp member with rfl | member
    · rfl
    · rw [List.eq_of_mem_replicate member]
      rfl
  rw [skipSpace, List.dropWhile_append_of_pos blank]
  cases cs with
  | nil => rfl
  | cons c rest => simp [starts c rfl]

theorem skipSpace_blank {cs : List Char} (starts : ∀ c ∈ cs.head?, isSpace c = false) :
    skipSpace (' ' :: cs) = cs := by
  cases cs with
  | nil => rfl
  | cons c rest =>
      have noSpace : isSpace c = false := starts c rfl
      rw [skipSpace, List.dropWhile_cons_of_pos (by decide), List.dropWhile_cons_of_neg (by
        simp [noSpace])]

theorem skipSpace_colon (cs : List Char) : skipSpace (':' :: cs) = ':' :: cs := rfl

theorem skipSpace_comma (cs : List Char) : skipSpace (',' :: cs) = ',' :: cs := rfl

theorem endsNumber_newLine (indent : Nat) (rest : List Char) :
    EndsNumber (newLine indent ++ rest) := by
  intro c first
  cases first
  decide

theorem endsNumber_comma (rest : List Char) : EndsNumber (',' :: rest) := by
  intro c first
  cases first
  decide

/-- A whole number starts with a digit or a minus sign. -/
theorem exists_intText_eq_cons (n : Int) :
    ∃ c rest, (intText n).toList = c :: rest ∧ (c.isDigit = true ∨ c = '-') := by
  cases n with
  | ofNat k =>
      rw [intText, String.toList_ofList]
      cases split : natDigits k with
      | nil => exact absurd split Nat.toDigits_ne_nil
      | cons c rest =>
          have member : c ∈ natDigits k := split ▸ List.mem_cons_self ..
          exact ⟨c, rest, rfl, .inl (isDigit_of_mem_natDigits member)⟩
  | negSucc k => exact ⟨'-', natDigits (k + 1), String.toList_ofList .., .inr rfl⟩

theorem isSpace_of_isDigit {c : Char} (digit : c.isDigit = true) : isSpace c = false := by
  cases space : isSpace c with
  | false => rfl
  | true =>
      simp only [isSpace, Bool.or_eq_true, beq_iff_eq] at space
      rcases space with ((rfl | rfl) | rfl) | rfl <;> exact absurd digit (by decide)

/-- A value starts with no blank and with no closing bracket. -/
theorem exists_printed_eq_cons {v : Json} (given : v.IsGiven named) (indent : Nat) :
    ∃ c rest, printed indent v = c :: rest ∧ isSpace c = false ∧ c ≠ ']' := by
  cases given with
  | text s => exact ⟨'"', _, by rw [printed, quoted]; rfl, by decide⟩
  | bool b => cases b <;> exact ⟨_, _, by rw [printed], by decide⟩
  | @int n fits =>
      obtain ⟨c, rest, starts, sign⟩ := exists_intText_eq_cons n
      refine ⟨c, rest, by rw [printed, starts], ?_⟩
      rcases sign with digit | rfl
      · refine ⟨isSpace_of_isDigit digit, ?_⟩
        rintro rfl
        exact absurd digit (by decide)
      · decide
  | @array items given =>
      cases items with
      | nil => exact ⟨'[', _, by rw [printed], by decide⟩
      | cons v rest => exact ⟨'[', _, by rw [printed]; rfl, by decide⟩
  | @object fields _ given =>
      cases fields with
      | nil => exact ⟨'\x7b', _, by rw [printed], by decide⟩
      | cons f rest => exact ⟨'\x7b', _, by rw [printed]; rfl, by decide⟩

theorem starts_printed {v : Json} (given : v.IsGiven named) (indent : Nat) (rest : List Char) :
    ∀ c ∈ (printed indent v ++ rest).head?, isSpace c = false := by
  obtain ⟨c, more, starts, noSpace, -⟩ := exists_printed_eq_cons given indent
  intro d first
  rw [starts] at first
  cases first
  exact noSpace

/-! ## Steps of the reader -/

section Steps

variable {fuel outer indent : Nat} {cs more rest : List Char} {node : Node}

/-- What stands behind an item decides whether the list goes on. -/
theorem readItems_of_value (item : readValue fuel cs = some (node, more)) :
    readItems (fuel + 1) cs =
      match skipSpace more with
      | ',' :: rest => (readItems fuel (skipSpace rest)).map fun r => (node :: r.1, r.2)
      | ']' :: rest => some ([node], rest)
      | _ => none := by
  rewrite [readItems, item]
  rfl

theorem readItems_last (item : readValue fuel cs = some (node, newLine outer ++ ']' :: rest)) :
    readItems (fuel + 1) cs = some ([node], rest) := by
  rw [readItems_of_value item, skipSpace_newLine outer fun c first => by cases first; rfl]
  rfl

theorem readItems_comma (item : readValue fuel cs = some (node, ',' :: (newLine indent ++ more)))
    (starts : ∀ c ∈ more.head?, isSpace c = false) :
    readItems (fuel + 1) cs = (readItems fuel more).map fun r => (node :: r.1, r.2) := by
  rw [readItems_of_value item, skipSpace_comma]
  exact congrArg (fun first => (readItems fuel first).map fun r => (node :: r.1, r.2))
    (skipSpace_newLine indent starts)

/-- What stands behind the value of a field decides whether the object goes on. -/
theorem readFields_of_value (key : String) {after : List Char}
    (value : readValue fuel more = some (node, after))
    (starts : ∀ c ∈ more.head?, isSpace c = false) :
    readFields (fuel + 1) (quoted key ++ ':' :: ' ' :: more) =
      match skipSpace after with
      | ',' :: rest =>
          (readFields fuel (skipSpace rest)).map fun r => ((some key.toList, node) :: r.1, r.2)
      | '\x7d' :: rest => some ([(some key.toList, node)], rest)
      | _ => none := by
  rw [quoted, List.cons_append, List.cons_append, List.append_assoc, List.singleton_append,
    readFields, readContent_quoted]
  simp only [skipSpace_colon, skipSpace_blank starts]
  rewrite [value]
  rfl

theorem readFields_last (key : String)
    (value : readValue fuel more = some (node, newLine outer ++ '\x7d' :: rest))
    (starts : ∀ c ∈ more.head?, isSpace c = false) :
    readFields (fuel + 1) (quoted key ++ ':' :: ' ' :: more) =
      some ([(some key.toList, node)], rest) := by
  rw [readFields_of_value key value starts,
    skipSpace_newLine outer fun c first => by cases first; rfl]
  rfl

theorem readFields_comma (key : String)
    (value : readValue fuel more = some (node, ',' :: (newLine indent ++ cs)))
    (starts : ∀ c ∈ more.head?, isSpace c = false)
    (next : ∀ c ∈ cs.head?, isSpace c = false) :
    readFields (fuel + 1) (quoted key ++ ':' :: ' ' :: more) =
      (readFields fuel cs).map fun r => ((some key.toList, node) :: r.1, r.2) := by
  rw [readFields_of_value key value starts, skipSpace_comma]
  exact congrArg
    (fun first => (readFields fuel first).map fun r => ((some key.toList, node) :: r.1, r.2))
    (skipSpace_newLine indent next)

theorem readValue_bracket (cs : List Char) :
    readValue (fuel + 1) ('[' :: cs) =
      match skipSpace cs with
      | ']' :: rest => some (.list .json [], rest)
      | first => (readItems fuel first).map fun r => (.list .json r.1, r.2) :=
  rfl

theorem readValue_brace (cs : List Char) :
    readValue (fuel + 1) ('\x7b' :: cs) =
      match skipSpace cs with
      | '\x7d' :: rest => some (.map .json [], rest)
      | first => (readFields fuel first).map fun r => (entriesNode r.1, r.2) :=
  rfl

theorem readValue_quoted (s : String) :
    readValue (fuel + 1) (quoted s ++ rest) = some (.scalar (.text s), rest) := by
  rw [quoted, List.cons_append, List.cons_append, List.append_assoc, List.singleton_append]
  -- A quote starts a text, so its content is what is read.
  change (readContent none _).map _ = _
  rw [readContent_quoted]
  simp [textScalar]

/-- The items of a list start on the line behind its bracket. -/
theorem readValue_array (starts : ∀ c ∈ cs.head?, isSpace c = false)
    (item : ∀ c ∈ cs.head?, c ≠ ']') :
    readValue (fuel + 1) ('[' :: (newLine indent ++ cs)) =
      (readItems fuel cs).map fun r => (.list .json r.1, r.2) := by
  rw [readValue_bracket, skipSpace_newLine indent starts]
  split
  · exact absurd rfl (item _ rfl)
  · rfl

/-- The fields of an object start on the line behind its brace. -/
theorem readValue_object (key : String) :
    readValue (fuel + 1) ('\x7b' :: (newLine indent ++ (quoted key ++ cs))) =
      (readFields fuel (quoted key ++ cs)).map fun r => (entriesNode r.1, r.2) := by
  have first : skipSpace (newLine indent ++ (quoted key ++ cs)) = quoted key ++ cs :=
    skipSpace_newLine indent fun c first => by cases first; rfl
  rw [readValue_brace, first]
  rfl

end Steps

/-! ## Values -/

/-- A value that is read as its node from its printed text, at every level of indentation and
whatever follows it. -/
def ReadsBack (v : Json) : Prop :=
  ∀ (indent fuel : Nat) (rest : List Char), 2 * (printed indent v).length ≤ fuel →
    EndsNumber rest → readValue fuel (printed indent v ++ rest) = some (Node.ofJson v, rest)

theorem readsBack_text (s : String) : ReadsBack (.text s) := by
  intro indent fuel rest enough _
  cases fuel with
  | zero => simp [printed, quoted] at enough
  | succ fuel =>
      rw [printed, readValue_quoted]
      rfl

theorem readsBack_bool (b : Bool) : ReadsBack (.bool b) := by
  intro indent fuel rest enough _
  cases fuel with
  | zero => cases b <;> simp [printed] at enough
  | succ fuel => cases b <;> (rw [printed]; rfl)

theorem readsBack_int {n : Int} (fits : fitsInt64 n = true) : ReadsBack (.int n) := by
  intro indent fuel rest enough ends
  have run := readNumber?_intText fits ends
  obtain ⟨c, more, starts, sign⟩ := exists_intText_eq_cons n
  rw [printed, starts] at enough ⊢
  rw [starts, List.cons_append] at run
  cases fuel with
  | zero => simp at enough
  | succ fuel =>
      rw [List.cons_append, readValue, run]
      · rfl
      -- No other value starts with a digit or a minus sign.
      all_goals
        rintro rest same
        rw [(List.cons.inj same).1] at sign
        exact absurd sign (by decide)

/-- The items of a list are read one after the other, up to the bracket on the line behind
them. -/
theorem readItems_printed {items : List Json} {v : Json}
    (given : ∀ item ∈ v :: items, Json.IsGiven named item)
    (reads : ∀ item ∈ v :: items, ReadsBack item) {indent outer fuel : Nat} (rest : List Char)
    (enough : 2 * (printed indent v ++ printedItems indent items).length + 1 ≤ fuel) :
    readItems fuel (printed indent v ++ (printedItems indent items ++ (newLine outer ++
      ']' :: rest))) = some (Node.ofJsonList (v :: items), rest) := by
  induction items generalizing v fuel with
  | nil =>
      cases fuel with
      | zero => omega
      | succ fuel =>
          simp only [printedItems, List.append_nil, List.nil_append] at enough ⊢
          have item := reads v (List.mem_cons_self ..) indent fuel (newLine outer ++ ']' :: rest)
            (by omega) (endsNumber_newLine _ _)
          rw [readItems_last item]
          rfl
  | cons next items ih =>
      cases fuel with
      | zero => omega
      | succ fuel =>
          simp only [printedItems, List.append_assoc, List.cons_append, List.length_append,
            List.length_cons] at enough ih ⊢
          have item := reads v (List.mem_cons_self ..) indent fuel
            (',' :: (newLine indent ++ (printed indent next ++ (printedItems indent items ++
              (newLine outer ++ ']' :: rest))))) (by omega) (endsNumber_comma _)
          rw [readItems_comma item (starts_printed (given next (by simp)) _ _),
            ih (fun w member => given w (List.mem_cons_of_mem v member))
              (fun w member => reads w (List.mem_cons_of_mem v member)) (by omega)]
          rfl

/-- The entries that the fields of an object are read as. -/
def readEntries (fields : List (String × Json)) : List (Option (List Char) × Node) :=
  fields.map fun f => (some f.1.toList, Node.ofJson f.2)

theorem entriesNode_readEntries (fields : List (String × Json)) :
    entriesNode (readEntries fields) = .map .json (Node.ofJsonFields fields) := by
  have known : (readEntries fields).mapM (fun entry => entry.1.map fun key => (key, entry.2)) =
      some (fields.map fun f => (f.1.toList, Node.ofJson f.2)) := by
    induction fields with
    | nil => rfl
    | cons f fields ih =>
        rw [readEntries] at ih
        simp [readEntries, ih]
  have nodes : (fields.map fun f => (f.1.toList, Node.ofJson f.2)).map
      (fun entry => (Node.scalar (.text (String.ofList entry.1)), entry.2)) =
      Node.ofJsonFields fields := by
    clear known
    induction fields with
    | nil => rfl
    | cons f fields ih =>
        rw [List.map_cons, List.map_cons, ih, String.ofList_toList]
        rfl
  simp only [entriesNode, known, nodes]

/-- The fields of an object are read one after the other, up to the brace on the line behind
them. -/
theorem readFields_printed {fields : List (String × Json)} {f : String × Json}
    (given : ∀ field ∈ f :: fields, Json.IsGiven named field.2)
    (reads : ∀ field ∈ f :: fields, ReadsBack field.2) {indent outer fuel : Nat}
    (rest : List Char)
    (enough : 2 * (printed indent f.2 ++ printedFields indent fields).length + 1 ≤ fuel) :
    readFields fuel (quoted f.1 ++ ':' :: ' ' :: (printed indent f.2 ++
      (printedFields indent fields ++ (newLine outer ++ '\x7d' :: rest)))) =
      some (readEntries (f :: fields), rest) := by
  induction fields generalizing f fuel with
  | nil =>
      cases fuel with
      | zero => omega
      | succ fuel =>
          simp only [printedFields, List.append_nil, List.nil_append] at enough ⊢
          have value := reads f (List.mem_cons_self ..) indent fuel
            (newLine outer ++ '\x7d' :: rest) (by omega) (endsNumber_newLine _ _)
          rw [readFields_last f.1 value (starts_printed (given f (List.mem_cons_self ..)) _ _)]
          rfl
  | cons next fields ih =>
      cases fuel with
      | zero => omega
      | succ fuel =>
          simp only [printedFields, List.append_assoc, List.cons_append, List.length_append,
            List.length_cons, List.nil_append] at enough ih ⊢
          have value := reads f (List.mem_cons_self ..) indent fuel
            (',' :: (newLine indent ++ (quoted next.1 ++ ':' :: ' ' :: (printed indent next.2 ++
              (printedFields indent fields ++ (newLine outer ++ '\x7d' :: rest))))))
            (by omega) (endsNumber_comma _)
          rw [readFields_comma f.1 value (starts_printed (given f (List.mem_cons_self ..)) _ _)
              fun c first => by cases first; rfl,
            ih (fun w member => given w (List.mem_cons_of_mem f member))
              (fun w member => reads w (List.mem_cons_of_mem f member)) (by omega)]
          rfl

theorem readsBack_array {items : List Json} (given : ∀ v ∈ items, v.IsGiven named)
    (reads : ∀ v ∈ items, ReadsBack v) : ReadsBack (.array items) := by
  intro indent fuel rest enough _
  cases items with
  | nil =>
      cases fuel with
      | zero => simp [printed] at enough
      | succ fuel =>
          rw [printed]
          rfl
  | cons v items =>
      cases fuel with
      | zero => simp [printed] at enough
      | succ fuel =>
          simp only [printed, List.cons_append, List.append_assoc, List.nil_append,
            List.length_cons, List.length_append] at enough ⊢
          rw [readValue_array (starts_printed (given v (List.mem_cons_self ..)) _ _),
            readItems_printed given reads rest (by
              simp only [List.length_append]
              omega)]
          · rfl
          · obtain ⟨c, more, starts, -, noEnd⟩ :=
              exists_printed_eq_cons (given v (List.mem_cons_self ..)) (indent + 1)
            intro d first
            rw [starts] at first
            cases first
            exact noEnd

theorem readsBack_object {fields : List (String × Json)} (given : ∀ f ∈ fields, f.2.IsGiven named)
    (reads : ∀ f ∈ fields, ReadsBack f.2) : ReadsBack (.object fields) := by
  intro indent fuel rest enough _
  cases fields with
  | nil =>
      cases fuel with
      | zero => simp [printed] at enough
      | succ fuel =>
          rw [printed]
          rfl
  | cons f fields =>
      cases fuel with
      | zero => simp [printed] at enough
      | succ fuel =>
          simp only [printed, List.cons_append, List.append_assoc, List.nil_append,
            List.length_cons, List.length_append] at enough ⊢
          rw [readValue_object, readFields_printed given reads rest (by
              simp only [List.length_append]
              omega),
            Node.ofJson, ← entriesNode_readEntries]
          rfl

/-- Every value that documents are written with is read back as its node. -/
theorem IsGiven.readsBack {v : Json} (given : v.IsGiven named) : ReadsBack v := by
  induction given with
  | text s => exact readsBack_text s
  | bool b => exact readsBack_bool b
  | int fits => exact readsBack_int fits
  | array given ih => exact readsBack_array given ih
  | object _ given ih => exact readsBack_object given ih

/-- The text of a value is read as the node of the value. -/
theorem read?_print {v : Json} (given : v.IsGiven named) : read? v.print = some (Node.ofJson v) := by
  obtain ⟨c, more, starts, noSpace, -⟩ := exists_printed_eq_cons given 0
  have first : skipSpace (printed 0 v) = printed 0 v := by
    simp [skipSpace, starts, noSpace]
  have run := given.readsBack 0 (2 * (printed 0 v).length + 2) [] (by omega)
    fun c absurd => nomatch absurd
  rw [List.append_nil] at run
  simp only [read?, print, String.toList_ofList, first, run]
  rfl

/-! ## The node of a value -/

theorem showsItems_ofJsonList {items : List Json}
    (shown : ∀ v ∈ items, Shows v (Node.ofJson v)) :
    ShowsItems items (Node.ofJsonList items) := by
  induction items with
  | nil => exact .nil
  | cons v items ih =>
      exact .cons (shown v (List.mem_cons_self ..))
        (ih fun w member => shown w (List.mem_cons_of_mem v member))

theorem showsFields_ofJsonFields {fields : List (String × Json)}
    (shown : ∀ f ∈ fields, Shows f.2 (Node.ofJson f.2)) :
    ShowsFields fields (Node.ofJsonFields fields) := by
  induction fields with
  | nil => exact .nil
  | cons f fields ih =>
      exact .cons (.text rfl rfl) (shown f (List.mem_cons_self ..))
        (ih fun w member => shown w (List.mem_cons_of_mem f member))

/-- The node of a value shows the value. -/
theorem shows_ofJson {v : Json} (given : v.IsGiven named) : Shows v (Node.ofJson v) := by
  induction given with
  | text s => exact .text rfl rfl
  | bool b => exact .bool rfl rfl
  | int fits => exact .int rfl rfl
  | array _ ih => exact .array (showsItems_ofJsonList ih)
  | object _ _ ih => exact .object (showsFields_ofJsonFields ih)

end ComponentGen.Json

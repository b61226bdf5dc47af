import ComponentGen.Proofs.Xml.LineEnds
import ComponentGen.Proofs.Xml.Tags

/-!
# Written elements as they are read back

The reader finds in a printed element what was laid out: its name, its attributes, and its
content, with the line ends and margins between the elements of a block as texts of their own.
-/

namespace ComponentGen.Xml

open Text

/-! ## What is read back -/

/-- A line end with the margin of the next line. -/
def gap (level : Nat) : List Char := '\n' :: margin level

/-- What is read back of the text in a text element. -/
def textNodes (s : String) : List Content :=
  if writtenPieces s.toList = [] then [] else [.text (readBack s)]

namespace Markup

/-- Markup whose names are read as they are written. -/
inductive Simple : Markup → Prop where
  | empty {name : String} {attributes : List (String × String)}
      (isName : isSimpleName name = true) (simple : SimpleAttributes attributes) :
      Simple (.empty name attributes)
  | text {name content : String} (isName : isSimpleName name = true) :
      Simple (.text name content)
  | block {name : String} {attributes : List (String × String)} {children : List Markup}
      (isName : isSimpleName name = true) (simple : SimpleAttributes attributes)
      (inner : ∀ child ∈ children, Simple child) :
      Simple (.block name attributes children)

mutual

/-- What is read back of an element in a namespace. -/
def content (space : Option String) (level : Nat) : Markup → Content
  | .empty name attributes => .element ⟨space, name⟩ (readBackAttributes attributes) []
  | .text name s => .element ⟨space, name⟩ [] (textNodes s)
  | .block name attributes children =>
      .element ⟨space, name⟩ (readBackAttributes attributes) (contents space level children)

/-- What is read back of the elements in a block. -/
def contents (space : Option String) (level : Nat) : List Markup → List Content
  | [] => [.text (String.ofList (gap level))]
  | child :: rest =>
      .text (String.ofList (gap (level + 1))) :: content space (level + 1) child ::
        contents space level rest

end

/-! ## How it is written -/

/-- What is between the tags of a block. -/
def inside (level : Nat) (children : List Markup) : List Char :=
  '\n' :: (printedAll (level + 1) children ++ margin level)

/-- An element without the `<` it starts with. -/
def tagged (level : Nat) : Markup → List Char
  | .empty name attributes => name.toList ++ (printedAttributes attributes ++ ['/', '>'])
  | .text name s => name.toList ++ '>' :: (escaped s ++ endTag name)
  | .block name attributes children =>
      name.toList ++ (printedAttributes attributes ++ '>' :: (inside level children ++ endTag name))

theorem printed_eq (level : Nat) (m : Markup) :
    printed level m = margin level ++ '<' :: (m.tagged level ++ ['\n']) := by
  cases m <;> simp [printed, tagged, inside, endTag]

theorem inside_nil (level : Nat) : inside level [] = gap level :=
  rfl

theorem inside_cons (level : Nat) (child : Markup) (rest : List Markup) :
    inside level (child :: rest) =
      gap (level + 1) ++ '<' :: (child.tagged (level + 1) ++ inside level rest) := by
  simp [inside, printedAll, printed_eq, gap]

theorem tagged_eq_cons {m : Markup} (simple : m.Simple) (level : Nat) :
    ∃ c cs, m.tagged level = c :: cs ∧ isNameStart c = true := by
  cases simple with
  | empty isName | text isName | block isName =>
      rcases isNameStart_of_isUnqualified (isUnqualified_of_isSimpleName isName) with
        ⟨c, rest, nameEq, starts⟩
      exact ⟨c, _, by rw [tagged, nameEq, List.cons_append], starts⟩

end Markup

/-! ## Steps of the reader -/

theorem escape_gap (level : Nat) : (gap level).flatMap escape = gap level := by
  have blanks : ∀ n, (List.replicate n ' ').flatMap escape = List.replicate n ' ' := by
    intro n
    induction n with
    | zero => rfl
    | succ n ih =>
        rw [List.replicate_succ, List.flatMap_cons, ih]
        rfl
  rw [gap, List.flatMap_cons, margin, blanks]
  rfl

theorem isPlain_gap (level : Nat) : IsPlain (gap level) := by
  have blank : ∀ c ∈ gap level, c = '\n' ∨ c = ' ' := by
    intro c member
    rcases List.mem_cons.mp member with rfl | member
    · exact .inl rfl
    · exact .inr (List.eq_of_mem_replicate member)
  constructor
  · intro member
    rcases blank _ member with impossible | impossible <;> exact absurd impossible (by decide)
  · intro c member
    rcases blank c member with rfl | rfl <;> rfl

theorem readText?_append (cs rest : List Char) :
    readText? (cs.flatMap escape ++ '<' :: rest) =
      some (textContent (writtenPieces cs), '<' :: rest) := by
  have noTag : ∀ c ∈ cs.flatMap escape, (c != '<') = true := by
    intro c member
    simpa using (mem_flatMap_escape member).2.1
  have ends : ∀ c ∈ ('<' :: rest).head?, (c != '<') = false := by simp
  have allowed : (cs.flatMap escape).all isAllowed = true :=
    List.all_eq_true.mpr fun c member => (mem_flatMap_escape member).1
  have noEnd : cutAt? [']', ']', '>'] (cs.flatMap escape) = none :=
    cutAt?_eq_none (c := '>') (by decide) fun member => (mem_flatMap_escape member).2.2.1 rfl
  simp only [readText?, span_append noTag ends]
  simp [allowed, noEnd, pieces?_escape]

/-- Text that is not empty is taken in as a whole. -/
theorem readContent?_text {cs : List Char} (nonEmpty : cs.flatMap escape ≠ []) (rest : List Char)
    (scope : Scope) (fuel : Nat) :
    readContent? (fuel + 1) scope (cs.flatMap escape ++ '<' :: rest) = do
      let (items, rest) ← readContent? fuel scope ('<' :: rest)
      return (consText (textContent (writtenPieces cs)) items, rest) := by
  have read := readText?_append cs rest
  generalize writtenEq : cs.flatMap escape = written at *
  cases written with
  | nil => exact absurd rfl nonEmpty
  | cons c written =>
      have noTag : c ≠ '<' := (@mem_flatMap_escape cs c (by simp [writtenEq])).2.1
      rw [List.cons_append] at *
      rw [readContent?]
      · rw [read]
        rfl
      all_goals simp [noTag]

theorem readContent?_element {c : Char} (starts : isNameStart c = true) (cs : List Char)
    (scope : Scope) (fuel : Nat) :
    readContent? (fuel + 1) scope ('<' :: c :: cs) = do
      let (item, rest) ← readElement? fuel scope (c :: cs)
      let (items, rest) ← readContent? fuel scope rest
      return (item :: items, rest) := by
  rcases ordinary_of_isNameStart starts with ⟨_, noEnd, _, noComment, noInstruction⟩
  rw [readContent?]
  all_goals simp [noEnd, noComment, noInstruction]

theorem readContent?_end (rest : List Char) (scope : Scope) (fuel : Nat) :
    readContent? (fuel + 1) scope ('<' :: '/' :: rest) = some ([], rest) :=
  rfl

theorem afterEndTag?_append {name : String} (plain : isUnqualified name.toList = true)
    (rest : List Char) :
    afterEndTag? (unqualified name) (name.toList ++ '>' :: rest) = some rest := by
  have ends : ∀ c ∈ ('>' :: rest).head?, isNameChar c = false := by
    rintro c (_ | _)
    rfl
  simp [afterEndTag?, readQualifiedName?_append plain ends, skipSpace, isSpace]

/-- The name is followed by a blank or by what ends the tag. -/
theorem isNameChar_head? (attributes : List (String × String)) (tagEnd : TagEnd)
    (rest : List Char) :
    ∀ c ∈ (printedAttributes attributes ++ (tagEnd.written ++ rest)).head?,
      isNameChar c = false := by
  cases attributes with
  | nil =>
      cases tagEnd <;>
        (rintro c (_ | _)
         rfl)
  | cons a attributes =>
      rintro c (_ | _)
      rfl

theorem length_le_printedAttributes (attributes : List (String × String)) :
    attributes.length ≤ (printedAttributes attributes).length := by
  induction attributes with
  | nil => simp
  | cons a attributes ih =>
      simp only [printedAttributes, List.length_append, List.length_cons]
      omega

/-- The start tag of an element, and what is left to read behind it. -/
theorem readElement?_append {name : String} (isName : isUnqualified name.toList = true)
    {attributes : List (String × String)}
    (plain : ∀ a ∈ attributes, isUnqualified a.1.toList = true)
    {outer scope : Scope} {resolved : List Attribute}
    (resolves : resolveTag? outer (writtenAttributes attributes) = some (scope, resolved))
    {space : Option String} (found : spaceOf? scope [] = some space)
    (tagEnd : TagEnd) (rest : List Char) (fuel : Nat) :
    readElement? (fuel + 1) outer
        (name.toList ++ (printedAttributes attributes ++ (tagEnd.written ++ rest))) =
      match tagEnd with
      | .closed => some (.element ⟨space, name⟩ resolved [], rest)
      | .opened => do
          let (children, rest) ← readContent? fuel scope rest
          let rest ← afterEndTag? (unqualified name) rest
          return (.element ⟨space, name⟩ resolved children, rest) := by
  have named := readQualifiedName?_append isName (isNameChar_head? attributes tagEnd rest)
  have enough : attributes.length <
      (printedAttributes attributes ++ (tagEnd.written ++ rest)).length + 1 := by
    have bound := length_le_printedAttributes attributes
    simp only [List.length_append]
    omega
  have tag := readAttributes?_written attributes plain tagEnd rest enough
  have base : String.ofList (unqualified name).base = name := String.ofList_toList
  have noDeclaration : (unqualified name).qualifier ≠ declarationName :=
    (List.cons_ne_nil _ _).symm
  have spaced : spaceOf? scope (unqualified name).qualifier = some space := found
  rw [readElement?, named]
  simp only [Option.bind_eq_bind, Option.bind_some, tag, resolves, spaced, noDeclaration, if_false,
    base]
  cases tagEnd <;> rfl

/-! ## Whole elements -/

namespace Markup

/-- The reader finds in the element what was laid out, with a bounded number of calls. -/
def IsRead (m : Markup) : Prop :=
  ∀ (level fuel : Nat) (scope : Scope) (space : Option String) (rest : List Char),
    spaceOf? scope [] = some space → (m.tagged level).length ≤ fuel →
      readElement? fuel scope (m.tagged level ++ rest) = some (m.content space level, rest)

theorem consText_content (s : List Char) (space : Option String) (level : Nat) (m : Markup)
    (items : List Content) :
    consText s (m.content space level :: items) =
      .text (String.ofList s) :: m.content space level :: items := by
  cases m <;> rfl

theorem textContent_gap (level : Nat) : textContent (writtenPieces (gap level)) = gap level :=
  textFrom_writtenPieces (isPlain_gap level).settled (isPlain_gap level).getLast? false

theorem readContent?_gap (level : Nat) (rest : List Char) (scope : Scope) (fuel : Nat) :
    readContent? (fuel + 1) scope (gap level ++ '<' :: rest) = do
      let (items, rest) ← readContent? fuel scope ('<' :: rest)
      return (consText (gap level) items, rest) := by
  have nonEmpty : (gap level).flatMap escape ≠ [] := by
    rw [escape_gap]
    exact List.cons_ne_nil _ _
  have read := readContent?_text nonEmpty rest scope fuel
  rwa [escape_gap, textContent_gap] at read

/-- The content of a block, read child by child. -/
theorem readContent?_inside {children : List Markup} (simple : ∀ child ∈ children, child.Simple)
    (each : ∀ child ∈ children, child.IsRead) (level : Nat) {fuel : Nat} {scope : Scope}
    {space : Option String} (found : spaceOf? scope [] = some space) (rest : List Char)
    (enough : (inside level children).length + 2 ≤ fuel) :
    readContent? fuel scope (inside level children ++ '<' :: '/' :: rest) =
      some (contents space level children, rest) := by
  induction children generalizing fuel with
  | nil =>
      rcases Nat.exists_eq_add_of_le' enough with ⟨spare, rfl⟩
      rw [inside_nil] at *
      rw [show spare + ((gap level).length + 2) = spare + (gap level).length + 1 + 1 by omega,
        readContent?_gap, readContent?_end]
      rfl
  | cons child others ih =>
      rcases tagged_eq_cons (simple child (List.mem_cons_self ..)) (level + 1) with
        ⟨c, cs, taggedEq, starts⟩
      have read := each child (List.mem_cons_self ..)
      have later := @ih (fun m member => simple m (List.mem_cons_of_mem _ member))
        (fun m member => each m (List.mem_cons_of_mem _ member))
      rw [inside_cons] at *
      simp only [List.length_append, List.length_cons] at enough
      have positive : 0 < (gap (level + 1)).length := by simp [gap]
      -- One call is for the gap in front of the child and one for the child itself.
      obtain ⟨spare, rfl⟩ : ∃ spare, fuel = spare + 1 + 1 := ⟨fuel - 2, by omega⟩
      have first := read (level + 1) spare scope space
        (inside level others ++ '<' :: '/' :: rest) found (by omega)
      have others := @later spare (by omega)
      rw [List.append_assoc, List.cons_append, readContent?_gap, List.append_assoc]
      rw [taggedEq, List.cons_append] at first ⊢
      rw [readContent?_element starts, first]
      simp [others, contents, consText_content]

theorem isRead_empty {name : String} {attributes : List (String × String)}
    (isName : isSimpleName name = true) (simple : SimpleAttributes attributes) :
    (Markup.empty name attributes).IsRead := by
  intro level fuel scope space rest found enough
  cases fuel with
  | zero => simp [tagged] at enough
  | succ fuel =>
      have tag := readElement?_append (isUnqualified_of_isSimpleName isName)
        simple.isUnqualified (resolveTag?_written scope simple) found .closed rest fuel
      simpa [tagged, content, TagEnd.written] using tag

/-- An element with content is read if the content is. -/
theorem readElement?_opened {name : String} (isName : isUnqualified name.toList = true)
    {attributes : List (String × String)}
    (plain : ∀ a ∈ attributes, isUnqualified a.1.toList = true)
    {outer scope : Scope} {resolved : List Attribute}
    (resolves : resolveTag? outer (writtenAttributes attributes) = some (scope, resolved))
    {space : Option String} (found : spaceOf? scope [] = some space)
    {inner rest : List Char} {items : List Content} {fuel : Nat}
    (innerRead : readContent? fuel scope (inner ++ '<' :: '/' :: (name.toList ++ '>' :: rest)) =
      some (items, name.toList ++ '>' :: rest)) :
    readElement? (fuel + 1) outer
        (name.toList ++ (printedAttributes attributes ++
          '>' :: (inner ++ '<' :: '/' :: (name.toList ++ '>' :: rest)))) =
      some (.element ⟨space, name⟩ resolved items, rest) := by
  have tag := readElement?_append isName plain resolves found .opened
    (inner ++ '<' :: '/' :: (name.toList ++ '>' :: rest)) fuel
  rw [TagEnd.written, List.singleton_append] at tag
  rw [tag]
  simp [innerRead, afterEndTag?_append isName]

theorem isRead_text {name s : String} (isName : isSimpleName name = true) :
    (Markup.text name s).IsRead := by
  intro level fuel scope space rest found enough
  simp only [tagged, endTag, List.length_append, List.length_cons] at enough
  obtain ⟨spare, rfl⟩ : ∃ spare, fuel = spare + 1 + 1 + 1 := ⟨fuel - 3, by omega⟩
  have innerRead : readContent? (spare + 1 + 1) scope
      (escaped s ++ '<' :: '/' :: (name.toList ++ '>' :: rest)) =
        some (textNodes s, name.toList ++ '>' :: rest) := by
    by_cases nothing : writtenPieces s.toList = []
    · have noText : escaped s = [] := (flatMap_escape_eq_nil_iff _).mpr nothing
      rw [noText, textNodes, if_pos nothing]
      exact readContent?_end _ scope _
    · have nonEmpty : s.toList.flatMap escape ≠ [] :=
        mt (flatMap_escape_eq_nil_iff _).mp nothing
      rw [escaped, readContent?_text nonEmpty, readContent?_end, textNodes, if_neg nothing]
      rfl
  have whole := readElement?_opened (isUnqualified_of_isSimpleName isName)
    simpleAttributes_nil.isUnqualified (resolveTag?_written scope simpleAttributes_nil) found
    innerRead
  simpa [tagged, content, endTag, printedAttributes, readBackAttributes] using whole

theorem isRead_block {name : String} {attributes : List (String × String)}
    {children : List Markup} (isName : isSimpleName name = true)
    (simple : SimpleAttributes attributes) (inner : ∀ child ∈ children, child.Simple)
    (each : ∀ child ∈ children, child.IsRead) :
    (Markup.block name attributes children).IsRead := by
  intro level fuel scope space rest found enough
  simp only [tagged, endTag, List.length_append, List.length_cons] at enough
  obtain ⟨spare, rfl⟩ : ∃ spare, fuel = spare + 1 := ⟨fuel - 1, by omega⟩
  have innerRead := @readContent?_inside _ inner each level spare _ _ found
    (name.toList ++ '>' :: rest) (by omega)
  have whole := readElement?_opened (isUnqualified_of_isSimpleName isName)
    simple.isUnqualified (resolveTag?_written scope simple) found innerRead
  simpa [tagged, content, endTag] using whole

/-- A laid out element is read back. -/
theorem Simple.isRead {m : Markup} (simple : m.Simple) : m.IsRead := by
  induction simple with
  | empty isName attributes => exact isRead_empty isName attributes
  | text isName => exact isRead_text isName
  | block isName attributes inner each => exact isRead_block isName attributes inner each

end Markup

end ComponentGen.Xml

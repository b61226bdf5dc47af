import ComponentGen.Proofs.Xml.Elements

/-!
# Written documents as they are read back

A document whose root declares a default namespace is read back element by element.  Normalizing
the line ends of a document first is the same as normalizing those of its texts.
-/

namespace ComponentGen.Xml

open Text

/-! ## The front of a document -/

/-- A text that starts with neither white space nor a tag is no document. -/
theorem read?_eq_none {s : String} {c : Char} {rest : List Char} (starts : s.toList = c :: rest)
    (noSpace : isSpace c = false) (noTag : c ≠ '<') (noByteMark : c ≠ '\uFEFF') :
    read? s = none := by
  have front : after? ['\uFEFF'] (c :: rest) = none := by
    simp [after?, noByteMark.symm]
  have noDeclaration : afterDeclaration? (c :: rest) = some (c :: rest) := by
    have other : after? "<?xml ".toList (c :: rest) = none := by
      simp [after?, noTag.symm]
    rw [afterDeclaration?, other]
    rfl
  have misc (fuel : Nat) : afterMisc? (fuel + 1) (c :: rest) = some (c :: rest) := by
    have skipped : skipSpace (c :: rest) = c :: rest := by simp [skipSpace, noSpace]
    rw [afterMisc?, skipped]
    split
    case h_1 same => exact absurd (List.cons.inj same).1 noTag
    case h_2 same => exact absurd (List.cons.inj same).1 noTag
    case h_3 => rfl
  rw [read?, starts, front, Option.getD_none, noDeclaration]
  simp only [Option.bind_eq_bind, Option.bind_some, misc]
  split
  case h_1 same => exact absurd (List.cons.inj same).1 noTag
  case h_2 => rfl

/-- The line that a document starts with. -/
def firstLine : List Char := "<?xml version=\"1.0\" encoding=\"UTF-8\"?>\n".toList

theorem toList_print (root : Markup) : root.print.toList = firstLine ++ root.printed 0 :=
  String.toList_ofList

theorem afterDeclaration?_firstLine (rest : List Char) :
    afterDeclaration? (firstLine ++ rest) = some ('\n' :: rest) :=
  rfl

theorem after?_mark_firstLine (rest : List Char) :
    after? ['\uFEFF'] (firstLine ++ rest) = none :=
  rfl

theorem afterMisc?_element {c : Char} (starts : isNameStart c = true) (cs : List Char)
    (fuel : Nat) :
    afterMisc? (fuel + 1) ('\n' :: '<' :: c :: cs) = some ('<' :: c :: cs) := by
  rcases ordinary_of_isNameStart starts with ⟨_, _, _, noComment, noInstruction⟩
  have skipped : skipSpace ('\n' :: '<' :: c :: cs) = '<' :: c :: cs := rfl
  rw [afterMisc?, skipped]
  split <;> simp_all

/-! ## Reading a document -/

namespace Markup

/-- A root element in a namespace of its own. -/
def rooted (name space : String) (children : List Markup) : Markup :=
  .block name [("xmlns", space)] children

theorem isUnqualified_xmlns {space : String} :
    ∀ a ∈ [("xmlns", space)], isUnqualified a.1.toList = true := by
  intro a member
  have named : a.1 = "xmlns" := by rw [List.mem_singleton.mp member]
  rw [named]
  decide

/-- The root is read in the namespace that it declares itself. -/
theorem readElement?_rooted {name space : String} (isName : isSimpleName name = true)
    (same : readBackValue space = space) (notXml : space ≠ xmlSpace)
    (notDeclaration : space ≠ declarationSpace) {children : List Markup}
    (simple : ∀ child ∈ children, child.Simple) (rest : List Char) {fuel : Nat}
    (enough : ((rooted name space children).tagged 0).length ≤ fuel) :
    readElement? fuel [] ((rooted name space children).tagged 0 ++ rest) =
      some (.element ⟨some space, name⟩ [] (contents (some space) 0 children), rest) := by
  simp only [rooted, tagged, endTag, List.length_append, List.length_cons] at enough
  obtain ⟨spare, rfl⟩ : ∃ spare, fuel = spare + 1 := ⟨fuel - 1, by omega⟩
  have found : spaceOf? [([], space)] [] = some (some space) := rfl
  have each : ∀ child ∈ children, child.IsRead := fun child member => (simple child member).isRead
  have innerRead := @readContent?_inside _ simple each 0 spare _ _ found
    (name.toList ++ '>' :: rest) (by omega)
  have whole := readElement?_opened (isUnqualified_of_isSimpleName isName) isUnqualified_xmlns
    (resolveTag?_default same notXml notDeclaration) found innerRead
  simpa [rooted, tagged, endTag] using whole

/-- A document is read back as it was laid out. -/
theorem read?_print {name space : String} (isName : isSimpleName name = true)
    (same : readBackValue space = space) (notXml : space ≠ xmlSpace)
    (notDeclaration : space ≠ declarationSpace) {children : List Markup}
    (simple : ∀ child ∈ children, child.Simple) :
    read? (rooted name space children).print =
      some (.element ⟨some space, name⟩ [] (contents (some space) 0 children)) := by
  have rootRead := @readElement?_rooted _ _ isName same notXml notDeclaration _ simple ['\n']
  have written : (rooted name space children).print.toList =
      firstLine ++ '<' :: ((rooted name space children).tagged 0 ++ ['\n']) := by
    rw [toList_print, printed_eq]
    rfl
  -- The root starts with a name, so what is in front of it ends here.
  obtain ⟨c, cs, bodyEq, starts⟩ : ∃ c cs, (rooted name space children).tagged 0 = c :: cs ∧
      isNameStart c = true := by
    rcases isNameStart_of_isUnqualified (isUnqualified_of_isSimpleName isName) with
      ⟨c, more, nameEq, starts⟩
    exact ⟨c, _, by rw [rooted, tagged, nameEq, List.cons_append], starts⟩
  rw [bodyEq] at rootRead written
  have enough : (c :: cs).length ≤ (firstLine ++ '<' :: (c :: cs ++ ['\n'])).length + 1 := by
    simp only [List.length_append, List.length_cons]
    omega
  rw [read?, written, after?_mark_firstLine, Option.getD_none, afterDeclaration?_firstLine]
  simp only [Option.bind_eq_bind, Option.bind_some, List.cons_append, afterMisc?_element starts]
  rw [← List.cons_append, rootRead enough]
  rfl

/-! ## Normalized line ends -/

mutual

/-- The same markup with other texts. -/
def mapText (f : String → String) : Markup → Markup
  | .empty name attributes => .empty name (attributes.map fun a => (a.1, f a.2))
  | .text name s => .text name (f s)
  | .block name attributes children =>
      .block name (attributes.map fun a => (a.1, f a.2)) (mapTextAll f children)

/-- The same elements with other texts. -/
def mapTextAll (f : String → String) : List Markup → List Markup
  | [] => []
  | child :: rest => mapText f child :: mapTextAll f rest

end

theorem mapTextAll_eq_map (f : String → String) (children : List Markup) :
    mapTextAll f children = children.map (mapText f) := by
  induction children with
  | nil => rfl
  | cons child rest ih => rw [mapTextAll, ih, List.map_cons]

theorem simpleAttributes_map (f : String → String) {attributes : List (String × String)}
    (simple : SimpleAttributes attributes) :
    SimpleAttributes (attributes.map fun a => (a.1, f a.2)) := by
  constructor
  · intro a member
    rcases List.mem_map.mp member with ⟨b, found, rfl⟩
    exact simple.1 b found
  · simpa [Function.comp_def] using simple.2

theorem Simple.mapText (f : String → String) {m : Markup} (simple : m.Simple) :
    (m.mapText f).Simple := by
  induction simple with
  | empty isName attributes => exact .empty isName (simpleAttributes_map f attributes)
  | text isName => exact .text isName
  | block isName attributes inner each =>
      rw [Markup.mapText, mapTextAll_eq_map]
      apply Simple.block isName (simpleAttributes_map f attributes)
      intro child member
      rcases List.mem_map.mp member with ⟨original, found, rfl⟩
      exact each original found

theorem Simple.mapText_eq_self {f : String → String} (same : ∀ s, f s = s) {m : Markup}
    (simple : m.Simple) : m.mapText f = m := by
  induction simple with
  | empty | text => simp [Markup.mapText, same]
  | block isName attributes inner each =>
      simp [Markup.mapText, mapTextAll_eq_map, same, List.map_congr_left each]

end Markup

theorem return_not_mem_name {name : String} (plain : isUnqualified name.toList = true) :
    '\r' ∉ name.toList := by
  intro member
  simp only [isUnqualified, Bool.and_eq_true, List.all_eq_true] at plain
  exact absurd (plain.1.2 _ member) (by decide)

theorem return_not_mem_margin (level : Nat) : '\r' ∉ margin level := by
  intro member
  exact absurd (List.eq_of_mem_replicate member) (by decide)

/-- Normalizing goes through a name. -/
theorem unixLines_name_append {name : String} (plain : isUnqualified name.toList = true)
    (rest : List Char) : unixLines (name.toList ++ rest) = name.toList ++ unixLines rest :=
  unixLines_append_of_not_mem (return_not_mem_name plain) rest

/-- Normalizing goes through a written text, up to the mark behind it. -/
theorem unixLines_escaped_append (s : String) {rest : List Char}
    (starts : rest.head? ≠ some '\n') :
    unixLines (escaped s ++ rest) =
      escaped (LineEnds.normalized.ofText s) ++ unixLines rest := by
  rw [unixLines_append starts, LineEnds.unixLines_escaped]

theorem unixLines_printedAttributes_append (attributes : List (String × String))
    (plain : ∀ a ∈ attributes, isUnqualified a.1.toList = true) (rest : List Char) :
    unixLines (printedAttributes attributes ++ rest) =
      printedAttributes (attributes.map fun a => (a.1, LineEnds.normalized.ofText a.2)) ++
        unixLines rest := by
  induction attributes with
  | nil => rfl
  | cons a attributes ih =>
      have later := ih fun b member => plain b (List.mem_cons_of_mem a member)
      have namePlain := plain a (List.mem_cons_self ..)
      simp only [printedAttributes, List.map_cons, List.cons_append, List.append_assoc,
        List.nil_append]
      rw [unixLines_cons_of_ne (by decide), unixLines_name_append namePlain,
        unixLines_cons_of_ne (by decide), unixLines_cons_of_ne (by decide),
        unixLines_escaped_append _ (by simp), unixLines_cons_of_ne (by decide), later]

namespace Markup

theorem unixLines_endTag_append {name : String} (plain : isUnqualified name.toList = true)
    (rest : List Char) : unixLines (endTag name ++ rest) = endTag name ++ unixLines rest := by
  apply unixLines_append_of_not_mem
  simp [endTag, return_not_mem_name plain]

theorem unixLines_printedAll_append {children : List Markup}
    (each : ∀ child ∈ children, ∀ level rest,
      unixLines (printed level child ++ rest) =
        printed level (child.mapText LineEnds.normalized.ofText) ++ unixLines rest)
    (level : Nat) (rest : List Char) :
    unixLines (printedAll level children ++ rest) =
      printedAll level (mapTextAll LineEnds.normalized.ofText children) ++ unixLines rest := by
  induction children with
  | nil => rfl
  | cons child others ih =>
      have later := ih fun m member => each m (List.mem_cons_of_mem _ member)
      rw [printedAll, List.append_assoc, each child (List.mem_cons_self ..), later, mapTextAll,
        printedAll, List.append_assoc]

theorem unixLines_block_append {name : String} (plain : isUnqualified name.toList = true)
    {attributes : List (String × String)}
    (attributesPlain : ∀ a ∈ attributes, isUnqualified a.1.toList = true)
    {children : List Markup}
    (each : ∀ child ∈ children, ∀ level rest,
      unixLines (printed level child ++ rest) =
        printed level (child.mapText LineEnds.normalized.ofText) ++ unixLines rest)
    (level : Nat) (rest : List Char) :
    unixLines (printed level (.block name attributes children) ++ rest) =
      printed level ((Markup.block name attributes children).mapText
        LineEnds.normalized.ofText) ++ unixLines rest := by
  simp only [printed, mapText, List.append_assoc, List.cons_append, List.nil_append]
  rw [unixLines_append_of_not_mem (return_not_mem_margin level),
    unixLines_cons_of_ne (by decide), unixLines_name_append plain,
    unixLines_printedAttributes_append _ attributesPlain, unixLines_cons_of_ne (by decide),
    unixLines_cons_of_ne (by decide), unixLines_printedAll_append each,
    unixLines_append_of_not_mem (return_not_mem_margin level),
    unixLines_endTag_append plain, unixLines_cons_of_ne (by decide)]

/-- Normalizing the line ends of an element normalizes its texts. -/
theorem Simple.unixLines_printed_append {m : Markup} (simple : m.Simple) (level : Nat)
    (rest : List Char) :
    unixLines (printed level m ++ rest) =
      printed level (m.mapText LineEnds.normalized.ofText) ++ unixLines rest := by
  induction simple generalizing level rest with
  | empty isName attributes =>
      have plain := isUnqualified_of_isSimpleName isName
      simp only [printed, Markup.mapText, List.append_assoc, List.cons_append, List.nil_append]
      rw [unixLines_append_of_not_mem (return_not_mem_margin level),
        unixLines_cons_of_ne (by decide), unixLines_name_append plain,
        unixLines_printedAttributes_append _ attributes.isUnqualified,
        unixLines_cons_of_ne (by decide), unixLines_cons_of_ne (by decide),
        unixLines_cons_of_ne (by decide)]
  | text isName =>
      have plain := isUnqualified_of_isSimpleName isName
      simp only [printed, Markup.mapText, List.append_assoc, List.cons_append, List.nil_append]
      rw [unixLines_append_of_not_mem (return_not_mem_margin level),
        unixLines_cons_of_ne (by decide), unixLines_name_append plain,
        unixLines_cons_of_ne (by decide), unixLines_escaped_append _ (by simp [endTag]),
        unixLines_endTag_append plain, unixLines_cons_of_ne (by decide)]
  | block isName attributes inner each =>
      exact unixLines_block_append (isUnqualified_of_isSimpleName isName)
        attributes.isUnqualified each level rest

/-- What is done with the line ends of a document is done with those of its texts. -/
theorem ofDocument_print (ends : LineEnds) {name space : String}
    (isName : isSimpleName name = true) (plain : IsPlain space.toList) {children : List Markup}
    (simple : ∀ child ∈ children, child.Simple) :
    ends.ofDocument (rooted name space children).print =
      (rooted name space (children.map (mapText ends.ofText))).print := by
  cases ends with
  | asWritten =>
      have same : children.map (mapText LineEnds.asWritten.ofText) = children := by
        have each : ∀ child ∈ children, child.mapText LineEnds.asWritten.ofText = child :=
          fun child member => (simple child member).mapText_eq_self fun _ => rfl
        rw [List.map_congr_left each, List.map_id']
      rw [same]
      rfl
  | normalized =>
      have whole := unixLines_block_append (isUnqualified_of_isSimpleName isName)
        (@isUnqualified_xmlns space)
        (fun child member => (simple child member).unixLines_printed_append) 0 []
      have noReturn : '\r' ∉ firstLine := by decide
      have mapped : (rooted name space children).mapText LineEnds.normalized.ofText =
          rooted name space (children.map (mapText LineEnds.normalized.ofText)) := by
        simp [rooted, mapText, mapTextAll_eq_map, LineEnds.ofText_eq_self _ plain]
      rw [List.append_nil, unixLines_nil, List.append_nil] at whole
      change String.ofList (unixLines (rooted name space children).print.toList) = _
      rw [toList_print, unixLines_append_of_not_mem noReturn]
      change String.ofList (firstLine ++ unixLines (printed 0 (.block name _ _))) = _
      rw [whole]
      exact congrArg print mapped

/-- A document is read back as it was laid out, but for the line ends in its texts. -/
theorem read?_ofDocument_print (ends : LineEnds) {name space : String}
    (isName : isSimpleName name = true) (plain : IsPlain space.toList)
    (same : readBackValue space = space) (notXml : space ≠ xmlSpace)
    (notDeclaration : space ≠ declarationSpace) {children : List Markup}
    (simple : ∀ child ∈ children, child.Simple) :
    read? (ends.ofDocument (rooted name space children).print) =
      some (.element ⟨some space, name⟩ []
        (contents (some space) 0 (children.map (mapText ends.ofText)))) := by
  rw [ofDocument_print ends isName plain simple]
  apply read?_print isName same notXml notDeclaration
  intro child member
  rcases List.mem_map.mp member with ⟨original, found, rfl⟩
  exact (simple original found).mapText _

end Markup

end ComponentGen.Xml

import ComponentGen.Proofs.Naming.Sentence
import Mathlib.Data.Nat.Find

/-!
# The first end of a sentence

Where a sentence ends can be told from the text on the two sides of a place, without a search.
The search goes from boundary to boundary and passes over some of them as a whole.  It passes over
no end, and what it finds is the first one, up to white space, which is trimmed anyway.  So the
first sentence is the shortest beginning of the text that ends a sentence, and it is a sentence
that holds no other end.
-/

namespace ComponentGen.Naming

open Text

/-! ## Ends -/

/-- Places at which a sentence ends, between the text `p` in front of them and the text `rest`
behind them: behind marks with all their white space, unless a small letter follows; and behind a
blank line, unless it is part of the white space between a mark and a small letter. -/
inductive EndsSentence : List Char → List Char → Prop where
  | marks {start marks closers blanks rest : List Char} (marked : IsMarked marks closers blanks)
      (present : blanks ≠ []) (all : ∀ c ∈ rest.head?, isSpace c = false)
      (noSmall : ∀ c ∈ rest.head?, isLower c = false) :
      EndsSentence (start ++ (marks ++ closers ++ blanks)) rest
  | blankLine {start line rest : List Char} (blank : IsBlankLine line)
      (seen : ¬(BehindMark start ∧ BeforeSmall rest)) : EndsSentence (start ++ line) rest

/-- The shortest beginning of a text that ends a sentence. -/
structure IsFirstEnd (cs p rest : List Char) : Prop where
  whole : cs = p ++ rest
  ends : EndsSentence p rest
  first : ∀ q others, cs = q ++ others → EndsSentence q others → p.length ≤ q.length

theorem any_head?_eq_false_iff {rest : List Char} {p : Char → Bool} :
    rest.head?.any p = false ↔ ∀ c ∈ rest.head?, p c = false := by
  cases rest with
  | nil => simp
  | cons c rest => simp

theorem isTerminator_of_isLower {c : Char} (small : isLower c = true) : isTerminator c = false := by
  rw [← Bool.not_eq_true]
  intro mark
  rcases isTerminator_iff.mp mark with rfl | rfl | rfl <;> cases small

theorem isCloser_of_isLower {c : Char} (small : isLower c = true) : isCloser c = false := by
  rw [← Bool.not_eq_true]
  intro closer
  rcases isCloser_iff.mp closer with rfl | rfl | rfl | rfl <;> cases small

theorem not_behindMark_of_spaces {before : List Char} (spaces : ∀ c ∈ before, isSpace c = true) :
    ¬BehindMark before := by
  rintro ⟨start, marks, closers, blanks, marked, rfl⟩
  rcases List.exists_mem_of_ne_nil marks marked.nonempty with ⟨mark, member⟩
  have other := isTerminator_of_isSpace (spaces mark (by simp [member]))
  rw [marked.terminators mark member] at other
  cases other

/-- A small letter is neither a mark nor anything that may follow one. -/
theorem IsMarked.notMem {marks closers blanks : List Char} (marked : IsMarked marks closers blanks)
    {c : Char} (small : isLower c = true) (noSpace : isSpace c = false) :
    c ∉ marks ++ closers ++ blanks := by
  intro member
  rcases List.mem_append.mp member with front | blank
  · rcases List.mem_append.mp front with mark | closer
    · have other := isTerminator_of_isLower small
      rw [marked.terminators c mark] at other
      cases other
    · have other := isCloser_of_isLower small
      rw [marked.closers c closer] at other
      cases other
  · rw [marked.blanks c blank] at noSpace
    cases noSpace

theorem IsBlankLine.notMem {line : List Char} (blank : IsBlankLine line) {c : Char}
    (noSpace : isSpace c = false) : c ∉ line := by
  intro member
  rw [blank.spaces c member] at noSpace
  cases noSpace

/-- White space is the last thing in front of an end. -/
theorem EndsSentence.exists_eq_append_singleton {p rest : List Char} (ends : EndsSentence p rest) :
    ∃ front c, p = front ++ [c] ∧ isSpace c = true := by
  cases ends with
  | @marks start marks closers blanks _ marked present all noSmall =>
      rcases List.eq_nil_or_concat blanks with rfl | ⟨blanks, c, rfl⟩
      · exact absurd rfl present
      · exact ⟨start ++ (marks ++ closers ++ blanks), c, by simp, marked.blanks c (by simp)⟩
  | @blankLine start line _ blank seen =>
      rcases List.eq_nil_or_concat line with rfl | ⟨line, c, rfl⟩
      · rcases blank.exists_eq_cons with ⟨_, impossible⟩
        cases impossible
      · exact ⟨start ++ line, c, by simp, blank.spaces c (by simp)⟩

/-! ## What a search passes over -/

/-- An end right behind a boundary is one that the text starts with. -/
theorem IsMarked.exists_startsWith {marks closers blanks more : List Char}
    (marked : IsMarked marks closers blanks) (spaces : ∀ c ∈ more, isSpace c = true)
    (present : more ≠ []) (others : List Char) :
    ∃ b, StartsWith (marks ++ closers ++ blanks ++ (more ++ others)) b := by
  rcases exists_span_eq isSpace others with ⟨behind, rest, _, rfl, inBehind, all⟩
  have further : IsMarked marks closers (blanks ++ more ++ behind) :=
    ⟨marked.nonempty, marked.ending, marked.closing, by
      rw [List.forall_mem_append, List.forall_mem_append]
      exact ⟨⟨marked.blanks, spaces⟩, inBehind⟩⟩
  exact ⟨_, by simpa using StartsWith.marks further (by simp [present]) all⟩

/-- What is put in front of a text leaves an end an end, unless it brings marks in front of a blank
line. -/
theorem EndsSentence.prepend {front p rest : List Char} (ends : EndsSentence p rest)
    (noMark : ∀ start line, p = start ++ line → IsBlankLine line → BeforeSmall rest →
      BehindMark (front ++ start) → BehindMark start) :
    EndsSentence (front ++ p) rest := by
  cases ends with
  | @marks start _ _ _ _ marked present all noSmall =>
      rw [← List.append_assoc]
      exact .marks marked present all noSmall
  | @blankLine start line _ blank seen =>
      rw [← List.append_assoc]
      refine .blankLine blank ?_
      rintro ⟨behind, small⟩
      exact seen ⟨noMark start line rfl blank small behind, small⟩

/-- The ends of a text are those of the text without its beginning `front`. -/
def PassesOver (front rest : List Char) : Prop :=
  ∀ q others, front ++ rest = q ++ others →
    (EndsSentence q others ↔ ∃ p, q = front ++ p ∧ EndsSentence p others)

section NoBoundary

variable {c : Char} {rest others : List Char} (noStart : ∀ b, ¬StartsWith (c :: rest) b)

include noStart

/-- Where no boundary starts, the boundary at an end starts later. -/
theorem EndsSentence.exists_eq_cons {q : List Char} (ends : EndsSentence q others)
    (same : c :: rest = q ++ others) : ∃ p, q = c :: p ∧ EndsSentence p others := by
  cases ends with
  | @marks start marks closers blanks _ marked present all noSmall =>
      cases start with
      | nil =>
          rw [List.nil_append] at same
          exact absurd (same ▸ StartsWith.marks marked present all) (noStart _)
      | cons d start =>
          cases same
          exact ⟨_, rfl, .marks marked present all noSmall⟩
  | @blankLine start line _ blank seen =>
      cases start with
      | nil =>
          rw [List.nil_append] at same
          exact absurd (same ▸ StartsWith.blankLine blank) (noStart _)
      | cons d start =>
          cases same
          exact ⟨_, rfl, .blankLine blank fun passed => seen ⟨passed.1.cons c, passed.2⟩⟩

/-- A character where no boundary starts brings no marks in front of a blank line. -/
theorem EndsSentence.cons {p : List Char} (ends : EndsSentence p others)
    (same : rest = p ++ others) : EndsSentence (c :: p) others := by
  apply @EndsSentence.prepend [c] p others ends
  rintro start line rfl blank small ⟨before, marks, closers, blanks, marked, split⟩
  cases before with
  | nil =>
      -- The marks would start at the character, and so would a boundary.
      have present : line ≠ [] := by
        rcases blank.exists_eq_cons with ⟨_, rfl⟩
        simp
      rcases marked.exists_startsWith blank.spaces present others with ⟨b, starts⟩
      rw [List.nil_append] at split
      have whole : c :: rest = marks ++ closers ++ blanks ++ (line ++ others) := by
        rw [same, ← split]
        simp
      exact absurd (whole ▸ starts) (noStart b)
  | cons d before =>
      cases split
      exact ⟨before, marks, closers, blanks, marked, rfl⟩

end NoBoundary

/-- A character at which there is no boundary is passed over. -/
theorem passesOver_of_boundary?_eq_none {c : Char} {rest : List Char}
    (noBoundary : boundary? (c :: rest) = none) : PassesOver [c] rest := by
  have noStart (b : Boundary) : ¬StartsWith (c :: rest) b := by
    intro starts
    rw [boundary?_eq_some_iff.mpr starts] at noBoundary
    cases noBoundary
  intro q others same
  rw [List.singleton_append] at same
  constructor
  · intro ends
    exact ends.exists_eq_cons noStart same
  · rintro ⟨p, rfl, ends⟩
    cases same
    exact ends.cons noStart rfl

/-- What ends a text and does not hold the character `c` starts behind `c`. -/
theorem exists_eq_append_of_notMem {front rest before tail : List Char} {c : Char}
    (same : front ++ c :: rest = before ++ tail) (other : c ∉ tail) :
    ∃ inner, before = front ++ inner ∧ c :: rest = inner ++ tail := by
  rcases List.append_eq_append_iff.mp same with found | ⟨inner, _, rfl⟩
  · exact found
  · exact absurd (by simp) other

section Passing

variable {marks closers blanks rest : List Char} {c : Char}
  (marked : IsMarked marks closers blanks) (small : isLower c = true) (noSpace : isSpace c = false)

include marked small noSpace

/-- No sentence ends among marks or in the white space between them and a small letter. -/
theorem not_endsSentence_of_isMarked {q more : List Char}
    (inside : marks ++ closers ++ blanks = q ++ more) : ¬EndsSentence q (more ++ c :: rest) := by
  intro ends
  rcases ends.exists_eq_append_singleton with ⟨front, d, split, space⟩
  have cut : marks ++ closers ++ blanks = front ++ d :: more := by simp [inside, split]
  have spaces := (List.forall_mem_cons.mp (marked.cut cut space).2).2
  generalize others : more ++ c :: rest = behind at ends
  cases ends with
  | marks again present all noSmall =>
      subst others
      cases more with
      | nil =>
          have capital := noSmall c rfl
          rw [small] at capital
          cases capital
      | cons e more =>
          have visible := all e rfl
          rw [spaces e (List.mem_cons_self ..)] at visible
          cases visible
  | @blankLine start line _ blank seen =>
      subst others
      rcases blank.exists_eq_cons with ⟨tail, rfl⟩
      have behindMark : BehindMark start := by
        have whole : marks ++ closers ++ blanks = start ++ '\n' :: (tail ++ more) := by
          simp [inside]
        exact (marked.cut whole rfl).1
      have beforeSmall : BeforeSmall (more ++ c :: rest) := by
        rw [BeforeSmall, trimLeft_append spaces, trimLeft_eq_self (by simpa using noSpace)]
        simpa using small
      exact seen ⟨behindMark, beforeSmall⟩

/-- Marks with all their white space are passed over in front of a small letter. -/
theorem passesOver_of_isMarked : PassesOver (marks ++ closers ++ blanks) (c :: rest) := by
  intro q others same
  constructor
  · intro ends
    rcases List.append_eq_append_iff.mp same with ⟨p, rfl, behind⟩ | ⟨more, inside, rfl⟩
    · cases p with
      | nil =>
          rw [List.nil_append] at behind
          rw [List.append_nil, ← behind] at ends
          exact absurd ends
            (@not_endsSentence_of_isMarked _ _ _ rest c marked small noSpace _ [] (by simp))
      | cons d p =>
          cases behind
          refine ⟨_, rfl, ?_⟩
          generalize whole : marks ++ closers ++ blanks ++ c :: p = q at ends
          cases ends with
          | marks again present all noSmall =>
              rcases exists_eq_append_of_notMem whole (again.notMem small noSpace) with
                ⟨inner, _, split⟩
              rw [split]
              exact .marks again present all noSmall
          | blankLine blank seen =>
              rcases exists_eq_append_of_notMem whole (blank.notMem noSpace) with
                ⟨inner, rfl, split⟩
              rw [split]
              exact .blankLine blank fun passed => seen ⟨passed.1.append _, passed.2⟩
    · exact absurd ends (not_endsSentence_of_isMarked marked small noSpace inside)
  · rintro ⟨p, rfl, ends⟩
    apply ends.prepend
    rintro start line rfl blank _ ⟨before, others, closers, blanks, again, split⟩
    have behind := List.append_cancel_left (same.trans (List.append_assoc ..))
    rcases start with - | ⟨d, start⟩
    · -- The small letter would be part of the blank line.
      rcases blank.exists_eq_cons with ⟨tail, rfl⟩
      cases behind
      cases noSpace
    · cases behind
      rcases exists_eq_append_of_notMem split (again.notMem small noSpace) with ⟨inner, _, tail⟩
      exact ⟨inner, others, closers, blanks, again, tail⟩

end Passing

/-! ## The search -/

/-- What a search through a text has to give: nothing if no sentence ends in it, and otherwise the
text up to an end with at most white space between it and any end before it. -/
inductive Finds (cs : List Char) : Option (List Char) → Prop where
  | nothing (noEnd : ∀ q others, cs = q ++ others → ¬EndsSentence q others) : Finds cs none
  | upTo {p rest : List Char} (whole : cs = p ++ rest) (ends : EndsSentence p rest)
      (first : ∀ q others, cs = q ++ others → EndsSentence q others → EndsBy q p) :
      Finds cs (some p)

/-- What is found behind a passed beginning is found in the whole text. -/
theorem Finds.append {front rest : List Char} {result : Option (List Char)}
    (finds : Finds rest result) (passed : PassesOver front rest) :
    Finds (front ++ rest) (result.map (front ++ ·)) := by
  cases finds with
  | nothing noEnd =>
      refine .nothing fun q others same ends => ?_
      rcases (passed q others same).mp ends with ⟨p, rfl, endsBehind⟩
      rw [List.append_assoc, List.append_cancel_left_eq] at same
      exact noEnd p others same endsBehind
  | @upTo p others whole ends first =>
      have split : front ++ rest = front ++ p ++ others := by rw [whole, List.append_assoc]
      refine .upTo split ((passed _ _ split).mpr ⟨p, rfl, ends⟩) ?_
      intro q others same ends
      rcases (passed q others same).mp ends with ⟨p, rfl, endsBehind⟩
      rw [List.append_assoc, List.append_cancel_left_eq] at same
      exact (first p others same endsBehind).append front

theorem endsBy_of_append_eq {body rest q others : List Char} (same : body ++ rest = q ++ others)
    (spaces : ∀ more, body = q ++ more → ∀ c ∈ more, isSpace c = true) : EndsBy q body := by
  rcases List.append_eq_append_iff.mp same with ⟨tail, rfl, _⟩ | ⟨more, rfl, _⟩
  · exact endsBy_of_isPrefix (List.prefix_append body tail)
  · exact ⟨more, spaces more rfl, List.prefix_rfl⟩

/-- A boundary that ends a sentence is what a search gives: an end inside of it has only the white
space of the boundary behind it. -/
theorem finds_of_startsWith {cs : List Char} {b : Boundary} (starts : StartsWith cs b)
    (ends : b.ends = true) : Finds cs (some (cs.take b.length)) := by
  cases starts with
  | @marks marks closers blanks rest marked present all =>
      have noSmall : rest.head?.any isLower = false := by simpa using ends
      rw [List.take_left]
      refine .upTo rfl (@EndsSentence.marks [] _ _ _ _ marked present all
        (any_head?_eq_false_iff.mp noSmall)) ?_
      intro q others same endsThere
      apply endsBy_of_append_eq same
      intro more inside
      rcases endsThere.exists_eq_append_singleton with ⟨front, d, rfl, space⟩
      have cut : marks ++ closers ++ blanks = front ++ d :: more := by simp [inside]
      exact (List.forall_mem_cons.mp (marked.cut cut space).2).2
  | @blankLine line rest blank =>
      have noMark : ¬(BehindMark [] ∧ BeforeSmall rest) :=
        fun passed => not_behindMark_of_spaces (by simp) passed.1
      rw [List.take_left]
      refine .upTo rfl (@EndsSentence.blankLine [] _ _ blank noMark) ?_
      intro q others same endsThere
      apply endsBy_of_append_eq same
      rintro more rfl
      exact (List.forall_mem_append.mp blank.spaces).2

theorem untilEnd?_append (front rest : List Char) :
    untilEnd? front.length (front ++ rest) = (untilEnd? 0 rest).map (front ++ ·) := by
  induction front with
  | nil => simp
  | cons c front ih =>
      rw [List.length_cons, List.cons_append, untilEnd?, ih, Option.map_map]
      rfl

theorem untilEnd?_of_ends {cs : List Char} {b : Boundary} (found : boundary? cs = some b)
    (ends : b.ends = true) : untilEnd? 0 cs = some (cs.take b.length) := by
  cases cs with
  | nil => cases found
  | cons c rest =>
      rw [untilEnd?, found]
      exact if_pos ends

theorem untilEnd?_of_passed {body rest : List Char} (present : body ≠ [])
    (found : boundary? (body ++ rest) = some ⟨body.length, false⟩) :
    untilEnd? 0 (body ++ rest) = (untilEnd? 0 rest).map (body ++ ·) := by
  rcases List.exists_cons_of_ne_nil present with ⟨c, body, rfl⟩
  rw [List.cons_append] at found ⊢
  rw [untilEnd?, found]
  simp only [Bool.false_eq_true, if_false, List.length_cons, Nat.add_sub_cancel]
  rw [untilEnd?_append, Option.map_map]
  rfl

/-- A boundary that ends nothing is passed over. -/
theorem StartsWith.exists_passesOver {cs : List Char} {b : Boundary} (starts : StartsWith cs b)
    (goesOn : b.ends = false) :
    ∃ front rest, cs = front ++ rest ∧ front ≠ [] ∧ b = ⟨front.length, false⟩ ∧
      PassesOver front rest := by
  cases starts with
  | @marks marks closers blanks rest marked present all =>
      have small : rest.head?.any isLower = true := by simpa using goesOn
      rcases rest with - | ⟨c, rest⟩
      · cases small
      · refine ⟨marks ++ closers ++ blanks, c :: rest, rfl, by simp [present], ?_, ?_⟩
        · rw [small]
          rfl
        · exact passesOver_of_isMarked marked (by simpa using small) (all c rfl)
  | blankLine blank => cases goesOn

/-- A search gives what it has to give. -/
theorem finds_untilEnd? (cs : List Char) : Finds cs (untilEnd? 0 cs) := by
  cases cs with
  | nil =>
      refine .nothing fun q others same ends => ?_
      rcases ends.exists_eq_append_singleton with ⟨front, c, rfl, _⟩
      simp at same
  | cons c rest =>
      cases found : boundary? (c :: rest) with
      | none =>
          have later := (finds_untilEnd? rest).append (passesOver_of_boundary?_eq_none found)
          rw [untilEnd?, found]
          exact later
      | some b =>
          cases ends : b.ends with
          | true =>
              rw [untilEnd?_of_ends found ends]
              exact finds_of_startsWith (boundary?_eq_some_iff.mp found) ends
          | false =>
              rcases (boundary?_eq_some_iff.mp found).exists_passesOver ends with
                ⟨front, behind, split, present, rfl, passed⟩
              have shorter : behind.length < (c :: rest).length := by
                have front_pos := List.length_pos_of_ne_nil present
                rw [split, List.length_append]
                omega
              rw [split] at found ⊢
              rw [untilEnd?_of_passed present found]
              exact (finds_untilEnd? behind).append passed
termination_by cs.length
decreasing_by
  · exact Nat.lt_succ_self rest.length
  · exact shorter

/-! ## First sentences -/

/-- White space at the end of a text is trimmed. -/
theorem trim_append_spaces (cs : List Char) {blanks : List Char}
    (spaces : ∀ c ∈ blanks, isSpace c = true) :
    trim (String.ofList (cs ++ blanks)) = trim (String.ofList cs) := by
  rw [trim, trim, String.toList_ofList, String.toList_ofList]
  congr 1
  rw [trimLeft, trimLeft, List.dropWhile_append]
  split
  · rename_i nothing
    rw [List.dropWhile_eq_nil_iff.mpr spaces, List.isEmpty_iff.mp nothing]
  · exact trimRight_append _ spaces

/-- A text in which a sentence ends has a first place where one does. -/
theorem exists_isFirstEnd {cs q others : List Char} (whole : cs = q ++ others)
    (ends : EndsSentence q others) : ∃ p rest, IsFirstEnd cs p rest := by
  classical
  have some : ∃ n q others, cs = q ++ others ∧ EndsSentence q others ∧ q.length = n :=
    ⟨q.length, q, others, whole, ends, rfl⟩
  obtain ⟨p, rest, split, endsFirst, length⟩ := Nat.find_spec some
  refine ⟨p, rest, split, endsFirst, fun q others same endsThere => ?_⟩
  rw [length]
  exact Nat.find_min' some ⟨q, others, same, endsThere, rfl⟩

/-- What a search finds is the text up to the first end, and perhaps white space. -/
theorem IsFirstEnd.exists_untilEnd? {cs p rest : List Char} (firstEnd : IsFirstEnd cs p rest) :
    ∃ more, untilEnd? 0 cs = some (p ++ more) ∧ ∀ c ∈ more, isSpace c = true := by
  have finds := finds_untilEnd? cs
  generalize untilEnd? 0 cs = result at finds
  cases finds with
  | nothing noEnd => exact absurd firstEnd.ends (noEnd p rest firstEnd.whole)
  | @upTo found others whole ends first =>
      rcases first p rest firstEnd.whole firstEnd.ends with ⟨blanks, spaces, within⟩
      have shorter : p <+: found :=
        List.prefix_of_prefix_length_le (firstEnd.whole ▸ List.prefix_append p rest)
          (whole ▸ List.prefix_append found others) (firstEnd.first found others whole ends)
      rcases shorter with ⟨more, rfl⟩
      have inside : more <+: blanks := (List.prefix_append_right_inj p).mp within
      exact ⟨more, rfl, fun c member => spaces c (inside.subset member)⟩

/-- The first sentence of a text is the text up to its first end, trimmed. -/
theorem firstSentence_of_isFirstEnd {s : String} (present : isBlank s = false) {p rest : List Char}
    (firstEnd : IsFirstEnd s.toList p rest) : firstSentence s = trim (String.ofList p) := by
  rcases firstEnd.exists_untilEnd? with ⟨more, found, spaces⟩
  rw [firstSentence, present, found]
  exact trim_append_spaces p spaces

/-- A text in which no sentence ends is its own first sentence, trimmed. -/
theorem firstSentence_of_noEnd {s : String} (present : isBlank s = false)
    (noEnd : ∀ p rest, s.toList = p ++ rest → ¬EndsSentence p rest) :
    firstSentence s = trim s := by
  have finds := finds_untilEnd? s.toList
  rw [firstSentence, present]
  generalize untilEnd? 0 s.toList = result at finds ⊢
  cases finds with
  | nothing _ => simp
  | upTo whole ends _ => exact absurd ends (noEnd _ _ whole)

theorem firstSentence_of_isBlank {s : String} (blank : isBlank s = true) : firstSentence s = s := by
  rw [firstSentence, if_pos blank]

/-- The two cases of a text that is more than white space. -/
theorem firstSentence_cases {s : String} (present : isBlank s = false) :
    (∃ p rest, IsFirstEnd s.toList p rest ∧ firstSentence s = trim (String.ofList p)) ∨
      (∀ p rest, s.toList = p ++ rest → ¬EndsSentence p rest) ∧ firstSentence s = trim s := by
  by_cases some : ∃ q others, s.toList = q ++ others ∧ EndsSentence q others
  · rcases some with ⟨q, others, whole, ends⟩
    rcases exists_isFirstEnd whole ends with ⟨p, rest, firstEnd⟩
    exact .inl ⟨p, rest, firstEnd, firstSentence_of_isFirstEnd present firstEnd⟩
  · have noEnd : ∀ p rest, s.toList = p ++ rest → ¬EndsSentence p rest :=
      fun p rest whole ends => some ⟨p, rest, whole, ends⟩
    exact .inr ⟨noEnd, firstSentence_of_noEnd present noEnd⟩

/-! ## A second time -/

theorem BeforeSmall.of_append_right {rest right : List Char} (small : BeforeSmall (rest ++ right))
    {c : Char} (member : c ∈ rest) (visible : isSpace c = false) : BeforeSmall rest := by
  have left : trimLeft rest ≠ [] := by
    rw [trimLeft, ne_eq, List.dropWhile_eq_nil_iff]
    intro spaces
    rw [spaces c member] at visible
    cases visible
  rw [BeforeSmall, trimLeft, List.dropWhile_append, ← trimLeft, if_neg (by simpa using left),
    List.head?_append_of_ne_nil _ left] at small
  exact small

/-- An end inside of a part of a text is an end of the text, if only white space is in front of the
part and more than white space behind the end. -/
theorem EndsSentence.widen {left p rest : List Char} (ends : EndsSentence p rest)
    (inLeft : ∀ c ∈ left, isSpace c = true) {c : Char} (member : c ∈ rest)
    (visible : isSpace c = false) (right : List Char) :
    EndsSentence (left ++ p) (rest ++ right) := by
  have further : EndsSentence p (rest ++ right) := by
    cases ends with
    | marks marked present all noSmall =>
        have same : (rest ++ right).head? = rest.head? :=
          List.head?_append_of_ne_nil rest (List.ne_nil_of_mem member)
        exact .marks marked present (same ▸ all) (same ▸ noSmall)
    | blankLine blank seen =>
        exact .blankLine blank fun passed =>
          seen ⟨passed.1, passed.2.of_append_right member visible⟩
  exact further.prepend fun _ _ _ _ _ behind => behind.of_append inLeft

/-- Around the first sentence of a text there is white space in front of it, and no end before its
own. -/
theorem exists_toList_eq_firstSentence {s : String} (present : isBlank s = false) :
    ∃ left right, s.toList = left ++ (firstSentence s).toList ++ right ∧
      (∀ c ∈ left, isSpace c = true) ∧
      ∀ q others, s.toList = q ++ others → EndsSentence q others →
        (left ++ (firstSentence s).toList).length ≤ q.length := by
  rcases firstSentence_cases present with ⟨p, rest, firstEnd, same⟩ | ⟨noEnd, same⟩
  · rcases exists_toList_eq_trim (String.ofList p) with ⟨left, right, whole, inLeft, _⟩
    rw [String.toList_ofList, ← same] at whole
    refine ⟨left, right ++ rest, ?_, inLeft, ?_⟩
    · rw [firstEnd.whole, whole, List.append_assoc]
    · intro q others split ends
      have first := firstEnd.first q others split ends
      rw [whole, List.length_append] at first
      omega
  · rcases exists_toList_eq_trim s with ⟨left, right, whole, inLeft, _⟩
    rw [same]
    refine ⟨left, right, whole, inLeft, fun q others split ends => ?_⟩
    exact absurd ends (noEnd q others split)

theorem trim_firstSentence {s : String} (present : isBlank s = false) :
    trim (firstSentence s) = firstSentence s := by
  rcases firstSentence_cases present with ⟨_, _, _, same⟩ | ⟨_, same⟩ <;> rw [same, trim_trim]

/-- No sentence ends inside of a first sentence. -/
theorem not_endsSentence_firstSentence {s : String} (present : isBlank s = false)
    {p rest : List Char} (split : (firstSentence s).toList = p ++ rest) :
    ¬EndsSentence p rest := by
  intro ends
  have trimmed := (trim_eq_self_iff _).mp (trim_firstSentence present)
  rw [split] at trimmed
  rcases List.eq_nil_or_concat rest with rfl | ⟨front, c, rfl⟩
  · rcases ends.exists_eq_append_singleton with ⟨front, c, rfl, space⟩
    have visible := trimmed.2 c (by simp)
    rw [space] at visible
    cases visible
  · rcases exists_toList_eq_firstSentence present with ⟨left, right, whole, inLeft, first⟩
    have visible : isSpace c = false := trimmed.2 c (by simp)
    have member : c ∈ front.concat c := by simp
    have before := first (left ++ p) (front.concat c ++ right) (by simp [whole, split])
      (ends.widen inLeft member visible right)
    simp only [split, List.length_append, List.length_concat] at before
    omega

/-- A first sentence is its own first sentence. -/
theorem firstSentence_firstSentence (s : String) :
    firstSentence (firstSentence s) = firstSentence s := by
  cases present : isBlank s with
  | true => rw [firstSentence_of_isBlank present, firstSentence_of_isBlank present]
  | false =>
      cases left : isBlank (firstSentence s) with
      | true => exact firstSentence_of_isBlank left
      | false =>
          rw [firstSentence_of_noEnd left fun _ _ => not_endsSentence_firstSentence present,
            trim_firstSentence present]

/-- The first sentence of a text that is more than white space is the shortest beginning that ends
a sentence, or else the whole text, trimmed.  White space is its own first sentence, and so is
every first sentence. -/
theorem firstSentence_exact (s : String) :
    (isBlank s = false →
      (∃ p rest, IsFirstEnd s.toList p rest ∧ firstSentence s = trim (String.ofList p)) ∨
        (∀ p rest, s.toList = p ++ rest → ¬EndsSentence p rest) ∧ firstSentence s = trim s) ∧
      (isBlank s = true → firstSentence s = s) ∧
      firstSentence (firstSentence s) = firstSentence s :=
  ⟨firstSentence_cases, firstSentence_of_isBlank, firstSentence_firstSentence s⟩

theorem firstSentence_exact_abbreviation :
    isBlank "Use e.g. this one. Then more." = false ∧
      firstSentence "Use e.g. this one. Then more." = "Use e.g. this one." ∧
      ∃ p rest, IsFirstEnd "Use e.g. this one. Then more.".toList p rest ∧
        trim (String.ofList p) = "Use e.g. this one." := by
  have present : isBlank "Use e.g. this one. Then more." = false := by decide
  have sentence : firstSentence "Use e.g. this one. Then more." = "Use e.g. this one." := by
    decide
  refine ⟨present, sentence, ?_⟩
  rcases (firstSentence_exact _).1 present with ⟨p, rest, firstEnd, same⟩ | ⟨_, same⟩
  · exact ⟨p, rest, firstEnd, same.symm.trans sentence⟩
  · exact absurd (same.symm.trans sentence) (by decide)

/-! ## Texts that open with a blank line -/

/-- Text in which nothing but white space stands in front of a blank line. -/
def OpensBlank (cs : List Char) : Prop :=
  ∃ before line after, cs = before ++ line ++ after ∧ IsBlankLine line ∧
    ∀ c ∈ before, isSpace c = true

/-- Only a blank line can end a sentence that holds nothing. -/
theorem EndsSentence.opensBlank {p rest : List Char} (ends : EndsSentence p rest)
    (spaces : ∀ c ∈ p, isSpace c = true) : OpensBlank (p ++ rest) := by
  cases ends with
  | @marks start marks closers blanks _ marked present all noSmall =>
      have behind : BehindMark (start ++ (marks ++ closers ++ blanks)) :=
        ⟨start, marks, closers, blanks, marked, rfl⟩
      exact absurd behind (not_behindMark_of_spaces spaces)
  | blankLine blank seen =>
      exact ⟨_, _, rest, rfl, blank, (List.forall_mem_append.mp spaces).1⟩

/-- A text opens with a blank line exactly if a sentence that holds nothing ends in it. -/
theorem opensBlank_iff {cs : List Char} :
    OpensBlank cs ↔
      ∃ p rest, cs = p ++ rest ∧ EndsSentence p rest ∧ ∀ c ∈ p, isSpace c = true := by
  constructor
  · rintro ⟨before, line, after, rfl, blank, spaces⟩
    refine ⟨before ++ line, after, rfl, ?_, ?_⟩
    · exact .blankLine blank fun passed => not_behindMark_of_spaces spaces passed.1
    · rw [List.forall_mem_append]
      exact ⟨spaces, blank.spaces⟩
  · rintro ⟨p, rest, rfl, ends, spaces⟩
    exact ends.opensBlank spaces

theorem firstSentence_isPrefix {s : String} (present : isBlank s = false) :
    (firstSentence s).toList <+: trimLeft s.toList := by
  rcases firstSentence_cases present with ⟨p, rest, firstEnd, same⟩ | ⟨_, same⟩
  · rw [same, toList_trim, String.toList_ofList]
    have within : p <+: s.toList := firstEnd.whole ▸ List.prefix_append p rest
    exact (trimRight_isPrefix _).trans (trimLeft_isPrefix_trimLeft within)
  · rw [same, toList_trim]
    exact trimRight_isPrefix _

/-- A text that is more than white space has an empty first sentence exactly if it opens with a
blank line. -/
theorem firstSentence_eq_empty_iff {s : String} (present : isBlank s = false) :
    firstSentence s = "" ↔ OpensBlank s.toList := by
  rcases firstSentence_cases present with ⟨p, rest, firstEnd, same⟩ | ⟨noEnd, same⟩
  · have blank_iff : isBlank (String.ofList p) = true ↔ ∀ c ∈ p, isSpace c = true := by
      rw [isBlank, String.toList_ofList, List.all_eq_true]
    rw [same, trim_eq_empty_iff, blank_iff, opensBlank_iff]
    constructor
    · intro spaces
      exact ⟨p, rest, firstEnd.whole, firstEnd.ends, spaces⟩
    · rintro ⟨q, others, whole, ends, spaces⟩
      have within : p <+: q :=
        List.prefix_of_prefix_length_le (firstEnd.whole ▸ List.prefix_append p rest)
          (whole ▸ List.prefix_append q others) (firstEnd.first q others whole ends)
      exact fun c member => spaces c (within.subset member)
  · rw [same, trim_eq_empty_iff, present, opensBlank_iff]
    apply iff_of_false (by simp)
    rintro ⟨p, rest, whole, ends, _⟩
    exact noEnd p rest whole ends

/-- A first sentence that is not empty starts with what the text starts with. -/
theorem head?_firstSentence {s : String} (present : isBlank s = false)
    (left : firstSentence s ≠ "") :
    (firstSentence s).toList.head? = (trimLeft s.toList).head? := by
  rcases firstSentence_isPrefix present with ⟨tail, split⟩
  have notNil : (firstSentence s).toList ≠ [] := mt String.toList_eq_nil_iff.mp left
  rw [← split, List.head?_append_of_ne_nil _ notNil]

end ComponentGen.Naming

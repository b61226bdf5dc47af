import ComponentGen.Naming.Identifier
import Mathlib.Data.List.Basic

/-!
# Where words end

An identifier is read once from left to right, and a word that has been closed is never opened
again.  Still, where a word ends can be told from the place alone: from the classes of the
characters on its two sides and of the one behind them.  The words are the identifier's
characters in their order, none left out.
-/

namespace ComponentGen.Naming

open Text

/-! ## Classes of characters -/

/-- The classes of characters: capitals, small letters, the digits of ASCII, and every other
character by itself. -/
inductive HasClass (c : Char) : CharClass → Prop where
  | upper (capital : isUpper c = true) : HasClass c .upper
  | lower (noCapital : isUpper c = false) (small : isLower c = true) : HasClass c .lower
  | digit (noCapital : isUpper c = false) (notSmall : isLower c = false)
      (digit : c.isDigit = true) : HasClass c .digit
  | other (noCapital : isUpper c = false) (notSmall : isLower c = false)
      (noDigit : c.isDigit = false) : HasClass c (.other c)

theorem hasClass_of (c : Char) : HasClass c (CharClass.of c) := by
  unfold CharClass.of
  cases capital : isUpper c with
  | true => exact .upper capital
  | false =>
      cases small : isLower c with
      | true => exact .lower capital small
      | false =>
          cases digit : c.isDigit with
          | true => exact .digit capital small digit
          | false => exact .other capital small digit

theorem hasClass_iff {c : Char} {kind : CharClass} : HasClass c kind ↔ CharClass.of c = kind := by
  constructor
  · rintro (capital | ⟨noCapital, small⟩ | ⟨noCapital, notSmall, digit⟩ |
      ⟨noCapital, notSmall, noDigit⟩)
    all_goals simp [CharClass.of, *]
  · rintro rfl
    exact hasClass_of c

/-! ## Places -/

/-- Words end in front of the character with the given index: the words before that place are
made of the characters before it. -/
def EndsBefore (words : List (List Char)) (index : Nat) : Prop :=
  ∃ before, before <+: words ∧ before.flatten.length = index

/-- Whether a word ends between two characters, where `next` is the character behind them: where
the class changes, other than from a capital to a small letter; and in front of the last capital
of a run, if a small letter follows it. -/
def IsCut (a b : Char) (next : Option Char) : Prop :=
  (CharClass.of a ≠ CharClass.of b ∧ ¬(CharClass.of a = .upper ∧ CharClass.of b = .lower)) ∨
    CharClass.of a = .upper ∧ CharClass.of b = .upper ∧ ∃ c ∈ next, CharClass.of c = .lower

theorem endsBefore_append_singleton {words : List (List Char)} {word : List Char} {index : Nat} :
    EndsBefore (words ++ [word]) index ↔
      EndsBefore words index ∨ index = (words ++ [word]).flatten.length := by
  constructor
  · rintro ⟨before, within, rfl⟩
    rcases List.prefix_concat_iff.mp within with rfl | within
    · exact .inr rfl
    · exact .inl ⟨before, within, rfl⟩
  · rintro (⟨before, within, rfl⟩ | rfl)
    · exact ⟨before, within.trans (List.prefix_append words [word]), rfl⟩
    · exact ⟨words ++ [word], List.prefix_rfl, rfl⟩

theorem endsBefore_length (words : List (List Char)) : EndsBefore words words.flatten.length :=
  ⟨words, List.prefix_rfl, rfl⟩

theorem EndsBefore.le {words : List (List Char)} {index : Nat} (ends : EndsBefore words index) :
    index ≤ words.flatten.length := by
  rcases ends with ⟨before, ⟨behind, rfl⟩, rfl⟩
  simp

theorem isCut_some_iff {a b c : Char}
    (stays : ¬(CharClass.of b = .upper ∧ CharClass.of c = .lower)) :
    IsCut a b (some c) ↔ IsCut a b none := by
  simp only [IsCut, Option.mem_def, Option.some.injEq, exists_eq_left', reduceCtorEq,
    false_and, exists_false, and_false, or_false]
  constructor
  · rintro (changes | ⟨_, capital, small⟩)
    · exact changes
    · exact absurd ⟨capital, small⟩ stays
  · exact .inl

/-- A capital in front of a small letter starts a word, whatever is in front of it. -/
theorem isCut_of_capital {b c : Char} (a : Char) (capital : CharClass.of b = .upper)
    (small : CharClass.of c = .lower) : IsCut a b (some c) := by
  by_cases run : CharClass.of a = .upper
  · exact .inr ⟨run, capital, c, rfl, small⟩
  · exact .inl ⟨fun same => run (same.trans capital), fun behind => run behind.1⟩

/-! ## One step -/

namespace Splitting

@[simp]
theorem flatten_words (s : Splitting) :
    s.words.flatten = s.finished.flatten ++ s.front ++ [s.last] := by
  simp [words, word]

/-- What has become of the characters that have been read: all of them are in the words, in their
order; no finished word is empty; and finished words end exactly at the cuts. -/
structure HasRead (s : Splitting) (cs : List Char) : Prop where
  whole : s.words.flatten = cs
  nonempty : ∀ word ∈ s.finished, word ≠ []
  cuts : ∀ front a b rest, cs = front ++ a :: b :: rest →
    (EndsBefore s.finished (front.length + 1) ↔ IsCut a b rest.head?)

end Splitting

/-- One more character settles whether there is a cut in front of it, and lets a capital that was
the last character so far start a word.  All cuts before that stay as they are. -/
theorem cuts_append_singleton {finished more : List (List Char)} {cs : List Char} {c : Char}
    (cuts : ∀ front a b rest, cs = front ++ a :: b :: rest →
      (EndsBefore finished (front.length + 1) ↔ IsCut a b rest.head?))
    (earlier : ∀ index, index + 1 < cs.length →
      (EndsBefore more index ↔ EndsBefore finished index))
    (before : ∀ front a b, cs = front ++ [a, b] →
      (EndsBefore more (front.length + 1) ↔ IsCut a b (some c)))
    (behind : ∀ front a, cs = front ++ [a] →
      (EndsBefore more (front.length + 1) ↔ IsCut a c none)) :
    ∀ front a b rest, cs ++ [c] = front ++ a :: b :: rest →
      (EndsBefore more (front.length + 1) ↔ IsCut a b rest.head?) := by
  intro front a b rest same
  rcases List.eq_nil_or_concat rest with rfl | ⟨rest, last, rfl⟩
  · have split : cs ++ [c] = (front ++ [a]) ++ [b] := by simpa using same
    rcases List.append_singleton_inj.mp split with ⟨whole, rfl⟩
    exact behind front a whole
  · have split : cs ++ [c] = (front ++ a :: b :: rest) ++ [last] := by simpa using same
    rcases List.append_singleton_inj.mp split with ⟨whole, rfl⟩
    cases rest with
    | nil => exact before front a b whole
    | cons next rest =>
        have inside : front.length + 1 + 1 < cs.length := by
          simp only [whole, List.length_append, List.length_cons]
          omega
        rw [earlier (front.length + 1) inside, cuts front a b (next :: rest) whole]
        rfl

namespace Splitting

/-- The cuts in a word that goes on are those it had: its class stays the same, or a small letter
follows a capital with which the word starts. -/
theorem HasRead.grow {s : Splitting} {cs : List Char} (reads : s.HasRead cs) {c : Char}
    (goesOn : ¬IsCut s.last c none)
    (starts : CharClass.of s.last = .upper ∧ CharClass.of c = .lower → s.front = []) :
    (s.grow c).HasRead (cs ++ [c]) := by
  have whole := reads.whole
  rw [flatten_words] at whole
  constructor
  case whole => simp [Splitting.grow, word, ← whole]
  case nonempty => exact reads.nonempty
  case cuts =>
    apply cuts_append_singleton reads.cuts
    · intro index _
      exact Iff.rfl
    · intro front a b split
      by_cases takesOver : CharClass.of s.last = .upper ∧ CharClass.of c = .lower
      · rw [starts takesOver, List.append_nil] at whole
        have same : s.finished.flatten ++ [s.last] = (front ++ [a]) ++ [b] := by
          simpa [whole] using split
        rcases List.append_singleton_inj.mp same with ⟨behind, rfl⟩
        have ends := endsBefore_length s.finished
        rw [behind, List.length_append, List.length_singleton] at ends
        exact iff_of_true ends (isCut_of_capital a takesOver.1 takesOver.2)
      · have same : s.finished.flatten ++ s.front ++ [s.last] = (front ++ [a]) ++ [b] := by
          simpa [whole] using split
        rcases List.append_singleton_inj.mp same with ⟨_, rfl⟩
        rw [isCut_some_iff takesOver]
        exact reads.cuts front a s.last [] split
    · intro front a split
      rcases List.append_singleton_inj.mp (whole.trans split) with ⟨before, rfl⟩
      apply iff_of_false _ goesOn
      intro ends
      have short : front.length + 1 ≤ s.finished.flatten.length := ends.le
      rw [← before, List.length_append] at short
      omega

/-- A small letter behind a run of capitals takes the last of them, and the others are a word. -/
theorem HasRead.takeOver {s : Splitting} {cs : List Char} (reads : s.HasRead cs) {c : Char}
    (capital : CharClass.of s.last = .upper) (small : CharClass.of c = .lower)
    (run : s.front ≠ []) :
    HasRead { finished := s.finished ++ [s.front], front := [s.last], last := c } (cs ++ [c]) := by
  have whole := reads.whole
  rw [flatten_words] at whole
  have closed : (s.finished ++ [s.front]).flatten = s.finished.flatten ++ s.front := by simp
  constructor
  case whole => simp [← whole]
  case nonempty =>
    rw [List.forall_mem_append]
    exact ⟨reads.nonempty, by simpa using run⟩
  case cuts =>
    apply cuts_append_singleton reads.cuts
    · intro index early
      rw [endsBefore_append_singleton, closed]
      apply or_iff_left
      rintro rfl
      simp only [← whole, List.length_append, List.length_singleton] at early
      omega
    · intro front a b split
      have same : s.finished.flatten ++ s.front ++ [s.last] = (front ++ [a]) ++ [b] := by
        simpa [whole] using split
      rcases List.append_singleton_inj.mp same with ⟨before, rfl⟩
      apply iff_of_true _ (isCut_of_capital a capital small)
      rw [endsBefore_append_singleton, closed, before]
      exact .inr (by simp)
    · intro front a split
      rcases List.append_singleton_inj.mp (whole.trans split) with ⟨before, rfl⟩
      apply iff_of_false
      · intro ends
        have short := ends.le
        rw [closed, before] at short
        omega
      · simp [IsCut, capital, small]

/-- Where the class changes otherwise, the word is finished. -/
theorem HasRead.close {s : Splitting} {cs : List Char} (reads : s.HasRead cs) {c : Char}
    (changes : CharClass.of s.last ≠ CharClass.of c)
    (stays : ¬(CharClass.of s.last = .upper ∧ CharClass.of c = .lower)) :
    HasRead { finished := s.words, last := c } (cs ++ [c]) := by
  have whole := reads.whole
  rw [flatten_words] at whole
  constructor
  case whole => simp [← whole]
  case nonempty =>
    rw [words, List.forall_mem_append]
    exact ⟨reads.nonempty, by simp [word]⟩
  case cuts =>
    have closed : (s.finished ++ [s.word]).flatten = cs := reads.whole
    apply cuts_append_singleton reads.cuts
    · intro index early
      rw [words, endsBefore_append_singleton, closed]
      apply or_iff_left
      omega
    · intro front a b split
      have same : s.finished.flatten ++ s.front ++ [s.last] = (front ++ [a]) ++ [b] := by
        simpa [whole] using split
      rcases List.append_singleton_inj.mp same with ⟨_, rfl⟩
      rw [isCut_some_iff stays, words, endsBefore_append_singleton, closed]
      have inside : front.length + 1 ≠ cs.length := by simp [split]
      rw [or_iff_left inside]
      exact reads.cuts front a s.last [] split
    · intro front a split
      rcases List.append_singleton_inj.mp (whole.trans split) with ⟨_, rfl⟩
      apply iff_of_true _ (.inl ⟨changes, stays⟩)
      rw [words, endsBefore_append_singleton, closed]
      exact .inr (by simp [split])

/-- Reading a character finds the cut in front of it, and the one in front of the last character
if that is settled by it. -/
theorem HasRead.read {s : Splitting} {cs : List Char} (reads : s.HasRead cs) (c : Char) :
    (s.read c).HasRead (cs ++ [c]) := by
  simp only [Splitting.read]
  split
  case isTrue same =>
    apply reads.grow
    · simp [IsCut, same]
    · intro takesOver
      rw [same, takesOver.1] at takesOver
      cases takesOver.2
  case isFalse differs =>
    split
    case isTrue takesOver =>
      split
      case isTrue starts =>
        apply reads.grow
        · simp [IsCut, takesOver.1, takesOver.2]
        · exact fun _ => starts
      case isFalse run => exact reads.takeOver takesOver.2 takesOver.1 run
    case isFalse stays => exact reads.close (Ne.symm differs) (fun both => stays both.symm)

/-! ## The whole identifier -/

theorem HasRead.foldl {s : Splitting} {cs : List Char} (reads : s.HasRead cs) (rest : List Char) :
    (rest.foldl Splitting.read s).HasRead (cs ++ rest) := by
  induction rest generalizing s cs with
  | nil => simpa using reads
  | cons c rest ih =>
      have more := ih (reads.read c)
      rwa [List.append_assoc, List.singleton_append] at more

theorem hasRead_start (c : Char) : HasRead { last := c } [c] where
  whole := rfl
  nonempty := by simp
  cuts := by
    intro front a b rest split
    have short := congrArg List.length split
    simp only [List.length_append, List.length_cons, List.length_nil] at short
    omega

end Splitting

theorem exists_hasRead {cs : List Char} (present : cs ≠ []) :
    ∃ s : Splitting, s.HasRead cs ∧ words cs = s.words := by
  rcases List.exists_cons_of_ne_nil present with ⟨c, rest, rfl⟩
  exact ⟨_, (Splitting.hasRead_start c).foldl rest, rfl⟩

/-- An identifier is the concatenation of its words. -/
@[simp]
theorem flatten_words (cs : List Char) : (words cs).flatten = cs := by
  by_cases present : cs = []
  · rw [present]
    rfl
  · rcases exists_hasRead present with ⟨s, reads, same⟩
    rw [same, reads.whole]

/-- No word is empty. -/
theorem ne_nil_of_mem_words {cs word : List Char} (member : word ∈ words cs) : word ≠ [] := by
  have present : cs ≠ [] := by
    rintro rfl
    cases member
  rcases exists_hasRead present with ⟨s, reads, same⟩
  rw [same, Splitting.words] at member
  rcases List.mem_append.mp member with finished | last
  · exact reads.nonempty word finished
  · rw [List.mem_singleton.mp last]
    simp [Splitting.word]

/-- Words end exactly at the cuts. -/
theorem endsBefore_words_iff (front : List Char) (a b : Char) (rest : List Char) :
    EndsBefore (words (front ++ a :: b :: rest)) (front.length + 1) ↔
      IsCut a b rest.head? := by
  have present : front ++ a :: b :: rest ≠ [] := by simp
  rcases exists_hasRead present with ⟨s, reads, same⟩
  have whole : (s.finished ++ [s.word]).flatten = front ++ a :: b :: rest := reads.whole
  have inside : front.length + 1 ≠ (front ++ a :: b :: rest).length := by simp
  rw [same, Splitting.words, endsBefore_append_singleton, whole, or_iff_left inside]
  exact reads.cuts front a b rest rfl

end ComponentGen.Naming

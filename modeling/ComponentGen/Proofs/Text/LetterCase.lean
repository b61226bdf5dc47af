import ComponentGen.Text.Trim

/-!
# Letter case and white space

Case mappings neither make white space nor take it away: what a character is mapped to is white
space only if the character is.  For the characters beyond ASCII this is checked on the tables,
run by run: neither the code points of a run nor those it is moved to meet a code point of white
space.
-/

namespace ComponentGen.Text

/-! ## Code points of white space -/

/-- The code points of white space. -/
def spaceCodes : List Nat :=
  [9, 10, 11, 12, 13, 0x20, 0x85, 0xA0, 0x1680, 0x2000, 0x2001, 0x2002, 0x2003, 0x2004, 0x2005,
    0x2006, 0x2007, 0x2008, 0x2009, 0x200A, 0x2028, 0x2029, 0x202F, 0x205F, 0x3000]

theorem isSpace_iff (c : Char) : isSpace c = true ↔ c.toNat ∈ spaceCodes := by
  simp only [isSpace, spaceCodes, Bool.or_eq_true, Bool.and_eq_true, decide_eq_true_eq,
    beq_iff_eq, List.mem_cons, List.not_mem_nil, or_false]
  omega

theorem isSpace_eq_false_iff (c : Char) : isSpace c = false ↔ c.toNat ∉ spaceCodes := by
  rw [← isSpace_iff, Bool.not_eq_true]

/-- A number that is no code point of white space makes no white space. -/
theorem isSpace_ofNat {n : Nat} (other : n ∉ spaceCodes) : isSpace (Char.ofNat n) = false := by
  rw [isSpace_eq_false_iff]
  by_cases valid : n.isValidChar
  · have same : (Char.ofNat n).toNat = n := by
      rw [Char.ofNat, dif_pos valid]
      rfl
    rwa [same]
  · rw [Char.ofNat, dif_neg valid]
    decide

/-! ## Mappings by tables -/

/-- Whether no code point of white space lies between two others. -/
def avoidsSpace (first last : Nat) : Bool :=
  spaceCodes.all fun code => code < first || last < code

theorem not_mem_spaceCodes {first last : Nat} (avoids : avoidsSpace first last = true) {n : Nat}
    (above : first ≤ n) (below : n ≤ last) : n ∉ spaceCodes := by
  intro member
  have outside := List.all_eq_true.mp avoids n member
  simp only [Bool.or_eq_true, decide_eq_true_eq] at outside
  omega

/-- Whether a run of code points moves nothing out of white space or into it. -/
def CaseRun.keepsSpace (run : CaseRun) : Bool :=
  avoidsSpace run.codes.first run.codes.last &&
    avoidsSpace (run.codes.first + run.shift).toNat (run.codes.last + run.shift).toNat

/-- Whether a code point and the sequence it is mapped to are both more than white space. -/
def keepsSpace (expansion : Nat × List Nat) : Bool :=
  !spaceCodes.contains expansion.1 && !(expansion.2.map Char.ofNat).all isSpace

theorem shifted_eq_some {table : List CaseRun}
    (keeps : ∀ run ∈ table, run.keepsSpace = true) {c d : Char}
    (found : CaseTable.shifted table c = some d) : isSpace c = false ∧ isSpace d = false := by
  rcases Option.map_eq_some_iff.mp found with ⟨run, inRun, rfl⟩
  have kept := keeps run (List.mem_of_find?_eq_some inRun)
  have contained := List.find?_some inRun
  simp only [CaseRun.keepsSpace, Bool.and_eq_true] at kept
  simp only [CodeRun.contains, Bool.and_eq_true, decide_eq_true_eq] at contained
  rcases contained with ⟨⟨above, below⟩, _⟩
  constructor
  · rw [isSpace_eq_false_iff]
    exact not_mem_spaceCodes kept.1 above below
  · apply isSpace_ofNat
    apply not_mem_spaceCodes kept.2 <;>
      (simp only [Int.ofNat_eq_natCast]
       omega)

/-- A mapping by tables that keep white space apart is white space only if the character is. -/
theorem all_isSpace_mapped {expansions : List (Nat × List Nat)} {shifts : List CaseRun}
    (keepsAll : expansions.all keepsSpace = true)
    (keepsEach : shifts.all CaseRun.keepsSpace = true) (c : Char) :
    (CaseTable.mapped expansions shifts c).all isSpace = isSpace c := by
  rw [CaseTable.mapped]
  split
  case h_1 codes found =>
    have member : (c.toNat, codes) ∈ expansions := by
      obtain ⟨before, after, split, _⟩ := List.lookup_eq_some_iff.mp found
      simp [split]
    have kept := List.all_eq_true.mp keepsAll _ member
    simp only [keepsSpace, Bool.and_eq_true, Bool.not_eq_true', List.contains_eq_mem,
      decide_eq_false_iff_not] at kept
    rw [kept.2, (isSpace_eq_false_iff c).mpr kept.1]
  case h_2 =>
    cases found : CaseTable.shifted shifts c with
    | none => simp
    | some d =>
        rcases shifted_eq_some (List.all_eq_true.mp keepsEach) found with ⟨source, target⟩
        simp [source, target]

/-! ## Characters -/

/-- The characters of ASCII are checked one by one. -/
theorem of_ascii {p : Char → Bool} (each : (List.range 128).all (fun n => p (Char.ofNat n)) = true)
    {c : Char} (ascii : isAscii c = true) : p c = true := by
  have small : c.toNat ∈ List.range 128 := by simpa [isAscii] using ascii
  have holds := List.all_eq_true.mp each _ small
  rwa [Char.ofNat_toNat] at holds

theorem isSpace_ascii {f : Char → Char}
    (each : (List.range 128).all (fun n => isSpace (f (Char.ofNat n)) == isSpace (Char.ofNat n)) =
      true) {c : Char} (ascii : isAscii c = true) : isSpace (f c) = isSpace c :=
  beq_iff_eq.mp (@of_ascii (fun c => isSpace (f c) == isSpace c) each c ascii)

theorem all_isSpace_upperCase (c : Char) : (upperCase c).all isSpace = isSpace c := by
  rw [upperCase]
  split
  case isTrue ascii =>
    have same : isSpace c.toUpper = isSpace c := isSpace_ascii (by decide +kernel) ascii
    simpa using same
  case isFalse => exact all_isSpace_mapped (by decide +kernel) (by decide +kernel) c

theorem all_isSpace_lowerCase (c : Char) : (lowerCase c).all isSpace = isSpace c := by
  rw [lowerCase]
  split
  case isTrue ascii =>
    have same : isSpace c.toLower = isSpace c := isSpace_ascii (by decide +kernel) ascii
    simpa using same
  case isFalse => exact all_isSpace_mapped (by decide +kernel) (by decide +kernel) c

/-! ## Texts -/

theorem isSpace_lowerSigma (before after : List Char) :
    isSpace (lowerSigma before after) = false := by
  rw [lowerSigma]
  split <;> decide

theorem all_isSpace_lowerFrom (before cs : List Char) :
    (lowerFrom before cs).all isSpace = cs.all isSpace := by
  induction cs generalizing before with
  | nil => rfl
  | cons c rest ih =>
      rw [lowerFrom, List.all_append, ih, List.all_cons]
      by_cases sigma : c = 'Σ'
      · subst c
        have kept : isSpace 'Σ' = false := by decide
        simp [isSpace_lowerSigma, kept]
      · rw [if_neg sigma, all_isSpace_lowerCase]

@[simp]
theorem isBlank_lowerText (s : String) : isBlank (lowerText s) = isBlank s := by
  rw [isBlank, lowerText, String.toList_ofList, all_isSpace_lowerFrom, isBlank]

/-! ## Letters of ASCII -/

theorem isAscii_toLower {c : Char} (ascii : isAscii c = true) : isAscii c.toLower = true :=
  @of_ascii (fun c => isAscii c.toLower) (by decide) c ascii

theorem isUpper_toLower {c : Char} (ascii : isAscii c = true) : isUpper c.toLower = false :=
  beq_iff_eq.mp (@of_ascii (fun c => isUpper c.toLower == false) (by decide) c ascii)

theorem toLower_toLower {c : Char} (ascii : isAscii c = true) : c.toLower.toLower = c.toLower :=
  beq_iff_eq.mp (@of_ascii (fun c => c.toLower.toLower == c.toLower) (by decide) c ascii)

theorem toLower_toUpper_toLower {c : Char} (ascii : isAscii c = true) :
    c.toLower.toUpper.toLower = c.toLower :=
  beq_iff_eq.mp
    (@of_ascii (fun c => c.toLower.toUpper.toLower == c.toLower) (by decide) c ascii)

theorem toNat_of_isUpper {c : Char} (capital : c.isUpper = true) :
    65 ≤ c.toNat ∧ c.toNat ≤ 90 :=
  of_decide_eq_true capital

theorem isAscii_of_isUpper {c : Char} (capital : c.isUpper = true) : isAscii c = true := by
  have range := toNat_of_isUpper capital
  rw [isAscii, decide_eq_true_eq]
  omega

/-- A capital stays as it is. -/
theorem toUpper_of_isUpper {c : Char} (capital : c.isUpper = true) : c.toUpper = c := by
  have kept := @of_ascii (fun c => !c.isUpper || c.toUpper == c) (by decide) c
    (isAscii_of_isUpper capital)
  simpa [capital] using kept

/-- A capital comes back from its small letter. -/
theorem toUpper_toLower {c : Char} (capital : c.isUpper = true) : c.toLower.toUpper = c := by
  have kept := @of_ascii (fun c => !c.isUpper || c.toLower.toUpper == c) (by decide) c
    (isAscii_of_isUpper capital)
  simpa [capital] using kept

/-- Only a blank has the blank as its small letter. -/
theorem eq_blank_of_toLower {c : Char} (ascii : isAscii c = true) (blank : c.toLower = ' ') :
    c = ' ' := by
  have kept := @of_ascii (fun c => c.toLower != ' ' || c == ' ') (by decide) c ascii
  simpa [blank] using kept

/-- Lower case goes letter by letter through a text of ASCII, in which no sigma stands. -/
theorem lowerFrom_of_ascii (before : List Char) {cs : List Char}
    (ascii : ∀ c ∈ cs, isAscii c = true) : lowerFrom before cs = cs.map Char.toLower := by
  induction cs generalizing before with
  | nil => rfl
  | cons c rest ih =>
      rw [List.forall_mem_cons] at ascii
      have noSigma : c ≠ 'Σ' := by
        rintro rfl
        have outside : isAscii 'Σ' = false := by decide
        rw [outside] at ascii
        cases ascii.1
      rw [lowerFrom, if_neg noSigma, lowerCase, if_pos ascii.1, ih (c :: before) ascii.2]
      rfl

end ComponentGen.Text

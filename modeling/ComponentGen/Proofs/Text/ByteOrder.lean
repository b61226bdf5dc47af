import Mathlib.Data.List.Basic
import Mathlib.Tactic.SplitIfs

/-!
# The order of texts by their bytes

Texts are compared character by character.  Comparing the bytes that they are stored as gives the
same order: of two different characters the lesser one has the lesser bytes, and they differ
before the bytes of either character end.
-/

namespace ComponentGen.Text

/-- The bytes that a text is stored as. -/
def utf8 (s : String) : List UInt8 := s.toUTF8.data.toList

theorem utf8_eq_flatMap (s : String) : utf8 s = s.toList.flatMap String.utf8EncodeChar := by
  have encoded := String.toByteArray_ofList (l := s.toList)
  rw [String.ofList_toList] at encoded
  rw [utf8, String.toUTF8_eq_toByteArray, encoded, List.utf8Encode, List.toList_data_toByteArray]

theorem cons_ofNat_lt_cons_ofNat {a b : Nat} {as bs : List UInt8} (aSmall : a < 256)
    (bSmall : b < 256) :
    UInt8.ofNat a :: as < UInt8.ofNat b :: bs ↔ a < b ∨ a = b ∧ as < bs := by
  rw [List.cons_lt_cons_iff, UInt8.lt_iff_toNat_lt, ← UInt8.toNat_inj,
    UInt8.toNat_ofNat_of_lt' aSmall, UInt8.toNat_ofNat_of_lt' bSmall]

/-- Whatever follows, the bytes of a lesser character come first.  The bytes are digits of the
character's code to the base of 64, behind a first byte that grows with their number. -/
theorem utf8EncodeChar_append_lt {c d : Char} (below : c < d) (cs ds : List UInt8) :
    String.utf8EncodeChar c ++ cs < String.utf8EncodeChar d ++ ds := by
  have less : c.val.toNat < d.val.toNat := below
  have range : d.val.toNat < 1114112 := by
    rcases d.valid with low | high <;> omega
  have square (v : Nat) : v / 4096 = v / 64 / 64 := (Nat.div_div_eq_div_mul v 64 64).symm
  have cube (v : Nat) : v / 262144 = v / 64 / 64 / 64 := by
    rw [Nat.div_div_eq_div_mul, Nat.div_div_eq_div_mul]
  simp only [String.utf8EncodeChar, square, cube]
  split_ifs <;> simp (disch := omega) only [List.cons_append, cons_ofNat_lt_cons_ofNat] <;> omega

theorem flatMap_utf8EncodeChar_lt {cs ds : List Char} (below : cs < ds) :
    cs.flatMap String.utf8EncodeChar < ds.flatMap String.utf8EncodeChar := by
  induction below with
  | @nil d ds =>
      rw [List.flatMap_nil, List.flatMap_cons]
      cases bytes : String.utf8EncodeChar d with
      | nil => exact absurd bytes String.utf8EncodeChar_ne_nil
      | cons b bs => exact List.nil_lt_cons b _
  | rel less => exact utf8EncodeChar_append_lt less _ _
  | cons _ ih =>
      rw [List.flatMap_cons, List.flatMap_cons]
      exact List.append_left_lt ih

theorem utf8_lt_utf8 {s t : String} (below : s < t) : utf8 s < utf8 t := by
  rw [utf8_eq_flatMap, utf8_eq_flatMap]
  exact flatMap_utf8EncodeChar_lt below

/-- Texts are in the order of their bytes. -/
theorem utf8_le_utf8_iff {s t : String} : utf8 s ≤ utf8 t ↔ s ≤ t := by
  constructor
  · intro ordered
    apply String.not_lt.mp
    intro below
    exact ordered (utf8_lt_utf8 below)
  · intro ordered reversed
    by_cases below : s < t
    · exact List.lt_asymm (utf8_lt_utf8 below) reversed
    · have same := String.le_antisymm ordered (String.not_lt.mp below)
      subst same
      exact List.lt_irrefl _ reversed

end ComponentGen.Text

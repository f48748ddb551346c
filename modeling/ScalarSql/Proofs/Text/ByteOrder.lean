import Mathlib.Data.String.Basic

/-!
Strings in the order of their code points are in the order of their UTF-8 bytes: a character with a
smaller code point has a smaller encoding, and the two encodings part within their own bytes.
-/
namespace ScalarSql.Text

theorem byte_cons_lt_iff {m n : Nat} (fitsLeft : m < 256) (fitsRight : n < 256) {r s : List UInt8} :
    UInt8.ofNat m :: r < UInt8.ofNat n :: s ↔ m < n ∨ m = n ∧ r < s := by
  have left : (UInt8.ofNat m).toNat = m := UInt8.toNat_ofNat_of_lt' fitsLeft
  have right : (UInt8.ofNat n).toNat = n := UInt8.toNat_ofNat_of_lt' fitsRight
  rw [List.cons_lt_cons_iff, UInt8.lt_iff_toNat_lt, ← UInt8.toNat_inj, left, right]

/-- Whatever follows the two characters: the first byte of a longer encoding is larger than that of
a shorter one, and encodings of one length are the digits of the code points. -/
theorem utf8EncodeChar_append_lt {c d : Char} (smaller : c < d) (r s : List UInt8) :
    String.utf8EncodeChar c ++ r < String.utf8EncodeChar d ++ s := by
  have bound : d.val.toNat < 1114112 := by
    rcases d.valid with low | ⟨_, high⟩ <;> omega
  have less : c.val.toNat < d.val.toNat := UInt32.lt_iff_toNat_lt.1 smaller
  unfold String.utf8EncodeChar
  generalize c.val.toNat = m at less
  generalize d.val.toNat = n at less bound
  -- The code points part in some digit of six bits: in the last one, or before it.
  have last : m / 64 < n / 64 ∨ m / 64 = n / 64 ∧ m % 64 < n % 64 := by omega
  have third : m / 64 < n / 64 →
      m / 4096 < n / 4096 ∨ m / 4096 = n / 4096 ∧ m / 64 % 64 < n / 64 % 64 := by omega
  have second : m / 4096 < n / 4096 →
      m / 262144 < n / 262144 ∨
        m / 262144 = n / 262144 ∧ m / 4096 % 64 < n / 4096 % 64 := by omega
  have first : m / 262144 % 8 = m / 262144 ∧ n / 262144 % 8 = n / 262144 := by
    constructor <;> exact Nat.mod_eq_of_lt (by omega)
  simp only
  split_ifs <;> simp (disch := omega) only [List.cons_append, List.nil_append, byte_cons_lt_iff] <;>
    omega

theorem utf8EncodeChar_ne_nil (c : Char) : String.utf8EncodeChar c ≠ [] := by
  unfold String.utf8EncodeChar
  simp only
  split_ifs <;> exact List.cons_ne_nil _ _

theorem flatMap_utf8EncodeChar_lt {cs ds : List Char} (smaller : cs < ds) :
    cs.flatMap String.utf8EncodeChar < ds.flatMap String.utf8EncodeChar := by
  induction smaller with
  | @nil d ds =>
    obtain ⟨byte, bytes, encoded⟩ := List.exists_cons_of_ne_nil (utf8EncodeChar_ne_nil d)
    rw [List.flatMap_cons, encoded]
    exact List.nil_lt_cons _ _
  | rel before => exact utf8EncodeChar_append_lt before _ _
  | cons _ ih => exact List.append_left_lt ih

/-- The bytes of a string in UTF-8. -/
def utf8 (s : String) : List UInt8 := s.toUTF8.data.toList

theorem utf8_eq_flatMap (s : String) : utf8 s = s.toList.flatMap String.utf8EncodeChar := by
  rw [utf8, String.toUTF8_eq_toByteArray, ← String.utf8Encode_toList, List.utf8Encode,
    List.data_toByteArray]

theorem utf8_lt_of_lt {s t : String} (smaller : s < t) : utf8 s < utf8 t := by
  rw [utf8_eq_flatMap, utf8_eq_flatMap]
  exact flatMap_utf8EncodeChar_lt (String.lt_iff_toList_lt.1 smaller)

theorem utf8_lt_iff {s t : String} : utf8 s < utf8 t ↔ s < t := by
  refine ⟨fun smaller => ?_, utf8_lt_of_lt⟩
  rcases lt_trichotomy s t with before | rfl | behind
  · exact before
  · exact absurd smaller (List.lt_irrefl _)
  · exact absurd smaller (List.lt_asymm (utf8_lt_of_lt behind))

end ScalarSql.Text

import ScalarSql.Expr.Key
import ScalarSql.Proofs.Tree.Equality
import Mathlib.Algebra.Group.Nat.Defs

/-!
The parts of a key are self-delimiting: if two of them agree with whatever stands behind them, then
both the values and the bytes behind them agree. Shown for numbers, texts, operators, slot
references, literals and kinds.
-/
namespace ScalarSql

namespace Key

theorem bytes_length (width n : Nat) : (bytes width n).length = width := by
  induction width generalizing n with
  | zero => rfl
  | succ width ih => simp [bytes, ih]

theorem bytes_inj {width m n : Nat} (fitsLeft : m < 256 ^ width) (fitsRight : n < 256 ^ width)
    (equal : bytes width m = bytes width n) : m = n := by
  induction width generalizing m n with
  | zero =>
    simp only [Nat.pow_zero] at fitsLeft fitsRight
    omega
  | succ width ih =>
    rw [bytes, bytes, List.cons.injEq] at equal
    obtain ⟨lowest, others⟩ := equal
    have low : m % 256 = n % 256 := by
      have values := congrArg UInt8.toNat lowest
      simp only [UInt8.toNat_ofNat'] at values
      omega
    have high : m / 256 = n / 256 := by
      rw [Nat.pow_succ] at fitsLeft fitsRight
      exact ih (by omega) (by omega) others
    omega

theorem bytes_append_inj {width m n : Nat} {r s : List UInt8} (fitsLeft : m < 256 ^ width)
    (fitsRight : n < 256 ^ width) (equal : bytes width m ++ r = bytes width n ++ s) :
    m = n ∧ r = s := by
  have widths : (bytes width m).length = (bytes width n).length := by
    rw [bytes_length, bytes_length]
  obtain ⟨numbers, rests⟩ := List.append_inj equal widths
  exact ⟨bytes_inj fitsLeft fitsRight numbers, rests⟩

theorem tag_append_inj {m n : Nat} {r s : List UInt8} (fitsLeft : m < 2 ^ 32)
    (fitsRight : n < 2 ^ 32) (equal : tag m ++ r = tag n ++ s) : m = n ∧ r = s :=
  bytes_append_inj (by omega) (by omega) equal

theorem length_append_inj {m n : Nat} {r s : List UInt8} (fitsLeft : m < 2 ^ 64)
    (fitsRight : n < 2 ^ 64) (equal : length m ++ r = length n ++ s) : m = n ∧ r = s :=
  bytes_append_inj (by omega) (by omega) equal

theorem word32_append_inj {v w : UInt32} {r s : List UInt8}
    (equal : bytes 4 v.toNat ++ r = bytes 4 w.toNat ++ s) : v = w ∧ r = s := by
  obtain ⟨numbers, rests⟩ := bytes_append_inj v.toNat_lt w.toNat_lt equal
  exact ⟨UInt32.toNat_inj.1 numbers, rests⟩

theorem word64_append_inj {v w : UInt64} {r s : List UInt8}
    (equal : bytes 8 v.toNat ++ r = bytes 8 w.toNat ++ s) : v = w ∧ r = s := by
  obtain ⟨numbers, rests⟩ := bytes_append_inj v.toNat_lt w.toNat_lt equal
  exact ⟨UInt64.toNat_inj.1 numbers, rests⟩

theorem flag_append_inj {a b : Bool} {r s : List UInt8} (equal : flag a ++ r = flag b ++ s) :
    a = b ∧ r = s := by
  cases a <;> cases b <;> simp_all [flag]

/-- The length in front says where a text ends. -/
theorem text_append_inj {t u : String} {r s : List UInt8} (fitsLeft : t.utf8ByteSize < 2 ^ 64)
    (fitsRight : u.utf8ByteSize < 2 ^ 64) (equal : text t ++ r = text u ++ s) :
    t = u ∧ r = s := by
  rw [text, text, List.append_assoc, List.append_assoc] at equal
  obtain ⟨sizes, contents⟩ := length_append_inj fitsLeft fitsRight equal
  have lengths : t.toUTF8.data.toList.length = u.toUTF8.data.toList.length := by
    simpa [String.toUTF8_eq_toByteArray] using sizes
  obtain ⟨bytes, rests⟩ := List.append_inj contents lengths
  have arrays : t.toUTF8 = u.toUTF8 := ByteArray.ext (Array.toList_inj.1 bytes)
  rw [String.toUTF8_eq_toByteArray, String.toUTF8_eq_toByteArray] at arrays
  exact ⟨String.toByteArray_inj.1 arrays, rests⟩

/-- Operators are told apart by their places in a list of all of them. -/
theorem place_append_inj {α : Type} [BEq α] [LawfulBEq α] {all : List α} {x y : α}
    {r s : List UInt8} (short : all.length < 2 ^ 32) (left : x ∈ all) (right : y ∈ all)
    (equal : tag (all.idxOf x) ++ r = tag (all.idxOf y) ++ s) : x = y ∧ r = s := by
  have placeLeft := List.idxOf_lt_length_of_mem left
  have placeRight := List.idxOf_lt_length_of_mem right
  obtain ⟨places, rests⟩ := tag_append_inj (by omega) (by omega) equal
  exact ⟨(List.idxOf_inj left).1 places, rests⟩

end Key

open Key

theorem DataType.code_inj {t u : DataType} (equal : t.code = u.code) : t = u := by
  have decoded : some t = some u := by
    rw [← DataType.ofCode?_code t, ← DataType.ofCode?_code u, equal]
  exact Option.some.inj decoded

theorem DataType.code_lt (t : DataType) : t.code < 2 ^ 32 := by
  cases t <;> decide

theorem SlotRef.key_append_inj {ref ref' : SlotRef} {r s : List UInt8}
    (equal : ref.key ++ r = ref'.key ++ s) :
    ref.tuple = ref'.tuple ∧ ref.slot = ref'.slot ∧ r = s := by
  obtain ⟨⟨tupleScope, tupleIndex⟩, ⟨slotScope, slotIndex⟩, label⟩ := ref
  obtain ⟨⟨tupleScope', tupleIndex'⟩, ⟨slotScope', slotIndex'⟩, label'⟩ := ref'
  simp only [SlotRef.key, List.append_assoc] at equal
  obtain ⟨rfl, afterTupleScope⟩ := word32_append_inj equal
  obtain ⟨rfl, afterTuple⟩ := word32_append_inj afterTupleScope
  obtain ⟨rfl, afterSlotScope⟩ := word32_append_inj afterTuple
  obtain ⟨rfl, rests⟩ := word32_append_inj afterSlotScope
  exact ⟨rfl, rfl, rests⟩

theorem Arithmetic.key_append_inj {op op' : Arithmetic} {r s : List UInt8}
    (equal : op.key ++ r = op'.key ++ s) : op = op' ∧ r = s :=
  place_append_inj (by decide) (by cases op <;> decide) (by cases op' <;> decide) equal

theorem Comparison.key_append_inj {op op' : Comparison} {r s : List UInt8}
    (equal : op.key ++ r = op'.key ++ s) : op = op' ∧ r = s :=
  place_append_inj (by decide) (by cases op <;> decide) (by cases op' <;> decide) equal

theorem Connective.key_append_inj {op op' : Connective} {r s : List UInt8}
    (equal : op.key ++ r = op'.key ++ s) : op = op' ∧ r = s :=
  place_append_inj (by decide) (by cases op <;> decide) (by cases op' <;> decide) equal

theorem Pattern.key_append_inj {op op' : Pattern} {r s : List UInt8}
    (equal : op.key ++ r = op'.key ++ s) : op = op' ∧ r = s :=
  place_append_inj (by decide) (by cases op <;> decide) (by cases op' <;> decide) equal

theorem Aggregate.key_append_inj {op op' : Aggregate} {r s : List UInt8}
    (equal : op.key ++ r = op'.key ++ s) : op = op' ∧ r = s :=
  place_append_inj (by decide) (by cases op <;> decide) (by cases op' <;> decide) equal

/-- The bytes of a text, if there is one, can be counted in eight bytes. -/
def Literal.Encodable : Literal → Prop
  | .string s => s.utf8ByteSize < 2 ^ 64
  | _ => True

def Kind.Encodable : Kind → Prop
  | .literal value => value.Encodable
  | .call name => name.utf8ByteSize < 2 ^ 64
  | _ => True

namespace Literal

/-- The number that the key of a literal starts with. -/
def number : Literal → Nat
  | null => 0
  | boolean _ => 1
  | int _ => 2
  | double _ => 3
  | string _ => 4

def payloadKey : Literal → List UInt8
  | null => []
  | boolean b => flag b
  | int v => bytes 8 v.toUInt64.toNat
  | double v => bytes 8 v.bits.toNat
  | string s => text s

theorem key_eq_tag_append (value : Literal) : value.key = tag value.number ++ value.payloadKey := by
  cases value <;> simp [key, number, payloadKey]

theorem number_lt (value : Literal) : value.number < 2 ^ 32 := by
  unfold number
  split <;> decide

theorem payloadKey_append_inj {v w : Literal} {r s : List UInt8} (fitsLeft : v.Encodable)
    (fitsRight : w.Encodable) (numbers : v.number = w.number)
    (equal : v.payloadKey ++ r = w.payloadKey ++ s) : v = w ∧ r = s := by
  cases v with
  | null =>
    cases w with
    | null => exact ⟨rfl, equal⟩
    | _ => simp [number] at numbers
  | boolean b =>
    cases w with
    | boolean b' =>
      obtain ⟨rfl, rests⟩ := flag_append_inj equal
      exact ⟨rfl, rests⟩
    | _ => simp [number] at numbers
  | int v =>
    cases w with
    | int w =>
      obtain ⟨word⟩ := v
      obtain ⟨word'⟩ := w
      obtain ⟨words, rests⟩ := word64_append_inj equal
      exact ⟨by rw [show word = word' from words], rests⟩
    | _ => simp [number] at numbers
  | double v =>
    cases w with
    | double w =>
      obtain ⟨bits⟩ := v
      obtain ⟨bits'⟩ := w
      obtain ⟨words, rests⟩ := word64_append_inj equal
      exact ⟨by rw [show bits = bits' from words], rests⟩
    | _ => simp [number] at numbers
  | string t =>
    cases w with
    | string u =>
      obtain ⟨rfl, rests⟩ := text_append_inj fitsLeft fitsRight equal
      exact ⟨rfl, rests⟩
    | _ => simp [number] at numbers

theorem key_append_inj {v w : Literal} {r s : List UInt8} (fitsLeft : v.Encodable)
    (fitsRight : w.Encodable) (equal : v.key ++ r = w.key ++ s) : v = w ∧ r = s := by
  rw [key_eq_tag_append, key_eq_tag_append, List.append_assoc, List.append_assoc] at equal
  obtain ⟨numbers, payloads⟩ := tag_append_inj v.number_lt w.number_lt equal
  exact payloadKey_append_inj fitsLeft fitsRight numbers payloads

end Literal

namespace Kind

/-- The number that the key of a kind starts with. -/
def number (kind : Kind) : Nat :=
  match kind.shape with
  | .slot => 0
  | .literal => 1
  | .arithmetic => 2
  | .comparison => 3
  | .connective => 4
  | .nullTest => 5
  | .pattern => 6
  | .membership => 7
  | .range => 8
  | .cast => 9
  | .call => 10
  | .aggregate => 11

def payloadKey : Kind → List UInt8
  | slot ref => ref.key
  | literal value => value.key
  | arithmetic op => op.key
  | comparison op => op.key
  | connective op => op.key
  | nullTest negated => flag negated
  | pattern op => op.key
  | membership negated => flag negated
  | range negated => flag negated
  | cast target => tag target.code
  | call name => text name
  | aggregate op distinct => op.key ++ flag distinct

theorem key_eq_tag_append (kind : Kind) : kind.key = tag kind.number ++ kind.payloadKey := by
  cases kind <;> simp [key, number, shape, payloadKey]

theorem number_lt (kind : Kind) : kind.number < 2 ^ 32 := by
  unfold number
  split <;> decide

theorem shape_eq_of_number_eq {k l : Kind} (numbers : k.number = l.number) :
    k.shape = l.shape := by
  unfold number at numbers
  generalize k.shape = left at numbers ⊢
  generalize l.shape = right at numbers ⊢
  cases left <;> cases right <;> simp_all

/-- Of a slot reference the label is lost and nothing else. -/
theorem payloadKey_append_inj {k l : Kind} {r s : List UInt8} (fitsLeft : k.Encodable)
    (fitsRight : l.Encodable) (shapes : k.shape = l.shape)
    (equal : k.payloadKey ++ r = l.payloadKey ++ s) : k.unlabeled = l.unlabeled ∧ r = s := by
  cases k with
  | slot ref =>
    cases l with
    | slot ref' =>
      obtain ⟨tuples, slots, rests⟩ := SlotRef.key_append_inj equal
      exact ⟨by simp only [unlabeled, tuples, slots], rests⟩
    | _ => simp [shape] at shapes
  | literal v =>
    cases l with
    | literal w =>
      obtain ⟨rfl, rests⟩ := Literal.key_append_inj fitsLeft fitsRight equal
      exact ⟨rfl, rests⟩
    | _ => simp [shape] at shapes
  | arithmetic op =>
    cases l with
    | arithmetic op' =>
      obtain ⟨rfl, rests⟩ := Arithmetic.key_append_inj equal
      exact ⟨rfl, rests⟩
    | _ => simp [shape] at shapes
  | comparison op =>
    cases l with
    | comparison op' =>
      obtain ⟨rfl, rests⟩ := Comparison.key_append_inj equal
      exact ⟨rfl, rests⟩
    | _ => simp [shape] at shapes
  | connective op =>
    cases l with
    | connective op' =>
      obtain ⟨rfl, rests⟩ := Connective.key_append_inj equal
      exact ⟨rfl, rests⟩
    | _ => simp [shape] at shapes
  | nullTest b =>
    cases l with
    | nullTest b' =>
      obtain ⟨rfl, rests⟩ := flag_append_inj equal
      exact ⟨rfl, rests⟩
    | _ => simp [shape] at shapes
  | pattern op =>
    cases l with
    | pattern op' =>
      obtain ⟨rfl, rests⟩ := Pattern.key_append_inj equal
      exact ⟨rfl, rests⟩
    | _ => simp [shape] at shapes
  | membership b =>
    cases l with
    | membership b' =>
      obtain ⟨rfl, rests⟩ := flag_append_inj equal
      exact ⟨rfl, rests⟩
    | _ => simp [shape] at shapes
  | range b =>
    cases l with
    | range b' =>
      obtain ⟨rfl, rests⟩ := flag_append_inj equal
      exact ⟨rfl, rests⟩
    | _ => simp [shape] at shapes
  | cast target =>
    cases l with
    | cast target' =>
      obtain ⟨codes, rests⟩ := tag_append_inj target.code_lt target'.code_lt equal
      exact ⟨by rw [DataType.code_inj codes], rests⟩
    | _ => simp [shape] at shapes
  | call name =>
    cases l with
    | call name' =>
      obtain ⟨rfl, rests⟩ := text_append_inj fitsLeft fitsRight equal
      exact ⟨rfl, rests⟩
    | _ => simp [shape] at shapes
  | aggregate op distinct =>
    cases l with
    | aggregate op' distinct' =>
      simp only [payloadKey, List.append_assoc] at equal
      obtain ⟨rfl, flags⟩ := Aggregate.key_append_inj equal
      obtain ⟨rfl, rests⟩ := flag_append_inj flags
      exact ⟨rfl, rests⟩
    | _ => simp [shape] at shapes

theorem key_append_inj {k l : Kind} {r s : List UInt8} (fitsLeft : k.Encodable)
    (fitsRight : l.Encodable) (equal : k.key ++ r = l.key ++ s) :
    k.unlabeled = l.unlabeled ∧ r = s := by
  rw [key_eq_tag_append, key_eq_tag_append, List.append_assoc, List.append_assoc] at equal
  obtain ⟨numbers, payloads⟩ := tag_append_inj k.number_lt l.number_lt equal
  exact payloadKey_append_inj fitsLeft fitsRight (shape_eq_of_number_eq numbers) payloads

theorem key_congr {k l : Kind} (same : k.unlabeled = l.unlabeled) : k.key = l.key := by
  rcases unlabeled_eq_cases same with rfl | ⟨ref, ref', rfl, rfl, tuples, slots⟩
  · rfl
  · simp only [key, SlotRef.key, tuples, slots]

end Kind
end ScalarSql

import ScalarSql.Literal
import Mathlib.Algebra.Group.Int.Defs
import Mathlib.Tactic.SplitIfs

/-!
The order in which types widen without a cast, stated apart from the functions that compute with it.
`common?` gives the least type that both of its arguments widen to (`common?_eq_some_iff`), and the
type of an integer constant is the least that holds its value (`integerType_eq_iff`).
-/
namespace ScalarSql
namespace DataType

/-- A NULL widens to every type, a number to the numbers declared after its type, and a date to the
date types declared after its own. -/
inductive Widens : DataType → DataType → Prop
  | self {t : DataType} : t ≠ .invalid → Widens t t
  | null {t : DataType} : t ≠ .invalid → Widens .null t
  | number {s t : DataType} : s.isNumeric = true → t.isNumeric = true → s.code < t.code → Widens s t
  | date {s t : DataType} : s.isTemporal = true → t.isTemporal = true → s.code < t.code → Widens s t

theorem widens_iff {s t : DataType} :
    s.Widens t ↔ t ≠ .invalid ∧ (s = t ∨ s = .null) ∨
      s.code < t.code ∧
        (s.isNumeric = true ∧ t.isNumeric = true ∨ s.isTemporal = true ∧ t.isTemporal = true) := by
  constructor
  · intro widens
    cases widens with
    | self valid => exact Or.inl ⟨valid, Or.inl rfl⟩
    | null valid => exact Or.inl ⟨valid, Or.inr rfl⟩
    | number source target later => exact Or.inr ⟨later, Or.inl ⟨source, target⟩⟩
    | date source target later => exact Or.inr ⟨later, Or.inr ⟨source, target⟩⟩
  · rintro (⟨valid, rfl | rfl⟩ | ⟨later, ⟨source, target⟩ | ⟨source, target⟩⟩)
    · exact .self valid
    · exact .null valid
    · exact .number source target later
    · exact .date source target later

instance (s t : DataType) : Decidable (s.Widens t) := decidable_of_iff' _ widens_iff

theorem mem_all (t : DataType) : t ∈ all := by cases t <;> decide

/-- There are finitely many types, so what holds of all of them can be computed. -/
instance decidableForall {p : DataType → Prop} [DecidablePred p] : Decidable (∀ t, p t) :=
  decidable_of_iff (∀ t ∈ all, p t) ⟨fun each t => each t (mem_all t), fun each t _ => each t⟩

theorem Widens.valid {s t : DataType} (widens : s.Widens t) :
    s ≠ .invalid ∧ t ≠ .invalid := by
  revert s t
  decide

theorem Widens.trans {s t u : DataType} (first : s.Widens t) (second : t.Widens u) :
    s.Widens u := by
  revert s t u
  decide

theorem Widens.antisymm {s t : DataType} (up : s.Widens t) (down : t.Widens s) : s = t := by
  revert s t
  decide

/-- The least type that two types widen to. -/
structure LeastCommon (s t c : DataType) : Prop where
  left : s.Widens c
  right : t.Widens c
  least : ∀ d, s.Widens d → t.Widens d → c.Widens d

theorem LeastCommon.unique {s t c d : DataType} (first : LeastCommon s t c)
    (second : LeastCommon s t d) : c = d :=
  (first.least d second.left second.right).antisymm (second.least c first.left first.right)

theorem widens_of_common? {s t c : DataType} (common : s.common? t = some c) :
    s.Widens c ∧ t.Widens c := by
  revert s t c
  decide

theorem common?_of_widens {s t d : DataType} (left : s.Widens d) (right : t.Widens d) :
    ∃ c, s.common? t = some c ∧ c.Widens d := by
  have computed : ∀ s t d : DataType, s.Widens d → t.Widens d →
      ((s.common? t).any fun c => decide (c.Widens d)) = true := by decide
  simpa [Option.any_eq_true] using computed s t d left right

/-- The type computed for two types is their least common one. -/
theorem common?_eq_some_iff {s t c : DataType} : s.common? t = some c ↔ LeastCommon s t c := by
  constructor
  · intro common
    obtain ⟨left, right⟩ := widens_of_common? common
    refine ⟨left, right, fun d below above => ?_⟩
    obtain ⟨c', common', widens⟩ := common?_of_widens below above
    rw [common] at common'
    cases common'
    exact widens
  · intro least
    obtain ⟨c', common, below⟩ := common?_of_widens least.left least.right
    obtain ⟨left, right⟩ := widens_of_common? common
    rw [common, below.antisymm (least.least c' left right)]

/-- Two types are compatible if some type takes both. -/
def Compatible (s t : DataType) : Prop := ∃ d, s.Widens d ∧ t.Widens d

theorem common?_isSome_iff {s t : DataType} : (s.common? t).isSome = true ↔ Compatible s t := by
  rw [Option.isSome_iff_exists]
  constructor
  · rintro ⟨c, common⟩
    exact ⟨c, widens_of_common? common⟩
  · rintro ⟨d, left, right⟩
    obtain ⟨c, common, -⟩ := common?_of_widens left right
    exact ⟨c, common⟩

/-- A type of the family, or a NULL in its place. -/
def MayBe (family : DataType → Bool) (t : DataType) : Prop := t = .null ∨ family t = true

theorem orNull_iff {family : DataType → Bool} {t : DataType} :
    t.orNull family = true ↔ t.MayBe family := by
  simp [orNull, MayBe, or_comm]

/-- How many bits an integer type has. -/
def bits? : DataType → Option Nat
  | tinyInt => some 8
  | smallInt => some 16
  | int => some 32
  | bigInt => some 64
  | _ => none

/-- The value is in the range of the integer type. -/
def Holds (t : DataType) (v : Int) : Prop :=
  ∃ bits, t.bits? = some bits ∧ -2 ^ (bits - 1) ≤ v ∧ v < 2 ^ (bits - 1)

theorem holds_iff {t : DataType} {v : Int} :
    t.Holds v ↔ t = tinyInt ∧ -128 ≤ v ∧ v < 128 ∨ t = smallInt ∧ -32768 ≤ v ∧ v < 32768 ∨
      t = int ∧ -2147483648 ≤ v ∧ v < 2147483648 ∨
      t = bigInt ∧ -9223372036854775808 ≤ v ∧ v < 9223372036854775808 := by
  cases t <;> simp [Holds, bits?]

/-- The integer type that holds the value and widens to every other one that does. -/
structure Narrowest (v : Int) (t : DataType) : Prop where
  holds : t.Holds v
  least : ∀ s : DataType, s.Holds v → t.Widens s

theorem Narrowest.unique {v : Int} {s t : DataType} (first : Narrowest v s)
    (second : Narrowest v t) : s = t :=
  (first.least t second.holds).antisymm (second.least s first.holds)

end DataType

/-- The type of an integer constant is the narrowest one for its value. -/
theorem Literal.integerType_eq_iff {v : Int64} {t : DataType} :
    Literal.integerType v.toInt = t ↔ DataType.Narrowest v.toInt t := by
  have low := Int64.le_toInt v
  have high := Int64.toInt_lt v
  have holds : (Literal.integerType v.toInt).Holds v.toInt := by
    unfold Literal.integerType
    rw [DataType.holds_iff]
    split
    · simp_all
    · split
      · simp_all
      · split <;> simp_all
  have least : ∀ s : DataType, s.Holds v.toInt → (Literal.integerType v.toInt).Widens s := by
    intro s fits
    unfold Literal.integerType
    -- in each range the tests of the wider types come too late to be reached
    rcases DataType.holds_iff.1 fits with ⟨rfl, bound⟩ | ⟨rfl, bound⟩ | ⟨rfl, bound⟩ | ⟨rfl, bound⟩
    · split_ifs
      decide
    · split_ifs <;> decide
    · split_ifs <;> decide
    · split_ifs <;> decide
  constructor
  · rintro rfl
    exact ⟨holds, least⟩
  · exact DataType.Narrowest.unique ⟨holds, least⟩

end ScalarSql

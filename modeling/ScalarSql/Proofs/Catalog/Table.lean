import ScalarSql.Catalog.Table
import Mathlib.Data.List.Pairwise
import Mathlib.Tactic.MkIffOfInductiveProp

/-!
What a declared table is like: its columns are the declared ones in their order, no two of them have
the same name, whatever the case, and each has a type that a column can have.
-/
namespace ScalarSql

/-- A type that a column can be declared with. -/
def DataType.Declarable (ty : DataType) : Prop := ty.isValid = true ∧ ty ≠ .null

theorem DataType.declarable_iff {ty : DataType} :
    ty.Declarable ↔ ty ≠ .invalid ∧ ty ≠ .null := by
  simp [Declarable, isValid]

namespace Table

/-- Column names are apart and column types are declarable. -/
structure Sound (t : Table) : Prop where
  names_apart : t.columns.Pairwise fun c d => Text.alike c.name d.name = false
  types : ∀ c ∈ t.columns, c.ty.Declarable

/-- What a declaration asks of its columns. -/
@[mk_iff]
structure Admissible (columns : List (String × DataType)) : Prop where
  types : ∀ c ∈ columns, c.2.Declarable
  names_apart : columns.Pairwise fun c d => Text.alike c.1 d.1 = false

theorem admissible_nil : Admissible [] := ⟨by simp, .nil⟩

theorem admissible_cons {name : String} {ty : DataType} {rest : List (String × DataType)} :
    Admissible ((name, ty) :: rest) ↔
      ty.Declarable ∧ (∀ d ∈ rest, Text.alike name d.1 = false) ∧ Admissible rest := by
  rw [admissible_iff, admissible_iff, List.forall_mem_cons, List.pairwise_cons, and_and_and_comm,
    and_assoc]

variable {t grown : Table} {columns : List (String × DataType)}

/-- The table with one more column behind those that it has. -/
def push (t : Table) (name : String) (ty : DataType) : Table :=
  { t with columns := t.columns ++ [⟨name, ty, UInt32.ofNat t.columns.length⟩] }

theorem addColumns_cons_ok_iff {name : String} {ty : DataType} {rest : List (String × DataType)} :
    t.addColumns ((name, ty) :: rest) = .ok grown ↔
      ty.Declarable ∧ (∀ c ∈ t.columns, Text.alike c.name name = false) ∧
        (t.push name ty).addColumns rest = .ok grown := by
  have typed : ty.Declarable ↔ ¬(!ty.isValid || ty == .null) = true := by
    simp [DataType.Declarable]
  have fresh : (∀ c ∈ t.columns, Text.alike c.name name = false) ↔
      ¬(t.column? name).isSome = true := by
    simp [column?]
  rw [typed, fresh, Table.addColumns]
  split
  next untyped => simp [untyped]
  next typed =>
    split
    next taken => simp [taken]
    next unused => simp [typed, unused, push]

/-- Columns are added all or not at all, each behind the ones before it. -/
theorem addColumns_ok_iff :
    t.addColumns columns = .ok grown ↔
      (Admissible columns ∧ ∀ c ∈ t.columns, ∀ d ∈ columns, Text.alike c.name d.1 = false) ∧
        grown = { t with columns := t.columns ++ columns.mapIdx fun i c =>
          ⟨c.1, c.2, UInt32.ofNat (t.columns.length + i)⟩ } := by
  induction columns generalizing t with
  | nil =>
    have kept : t.addColumns [] = .ok t := by rw [Table.addColumns]
    simp [kept, admissible_nil, eq_comm (a := t)]
  | cons column rest ih =>
    obtain ⟨name, ty⟩ := column
    have behind : (t.push name ty).columns ++ rest.mapIdx (fun i c =>
          (⟨c.1, c.2, UInt32.ofNat ((t.push name ty).columns.length + i)⟩ : Column)) =
        t.columns ++ ((name, ty) :: rest).mapIdx fun i c =>
          ⟨c.1, c.2, UInt32.ofNat (t.columns.length + i)⟩ := by
      simp [push, List.mapIdx_cons, Nat.add_assoc, Nat.add_comm 1]
    have beside : (∀ c ∈ (t.push name ty).columns, ∀ d ∈ rest, Text.alike c.name d.1 = false) ↔
        (∀ c ∈ t.columns, ∀ d ∈ rest, Text.alike c.name d.1 = false) ∧
          ∀ d ∈ rest, Text.alike name d.1 = false := by
      simp [push, or_imp, forall_and]
    have before : (∀ c ∈ t.columns, ∀ d ∈ (name, ty) :: rest, Text.alike c.name d.1 = false) ↔
        (∀ c ∈ t.columns, Text.alike c.name name = false) ∧
          ∀ c ∈ t.columns, ∀ d ∈ rest, Text.alike c.name d.1 = false := by
      simp [forall_and]
    rw [addColumns_cons_ok_iff, ih, behind, beside, before, admissible_cons]
    exact ⟨fun ⟨typed, fresh, ⟨rest, old, new⟩, grows⟩ =>
        ⟨⟨⟨typed, new, rest⟩, fresh, old⟩, grows⟩,
      fun ⟨⟨⟨typed, new, rest⟩, fresh, old⟩, grows⟩ =>
        ⟨typed, fresh, ⟨rest, old, new⟩, grows⟩⟩

theorem declare_ok_iff {name : String} :
    declare name columns = .ok t ↔
      Admissible columns ∧
        t = ⟨name, columns.mapIdx fun i c => ⟨c.1, c.2, UInt32.ofNat i⟩⟩ := by
  simp [declare, addColumns_ok_iff]

/-- A declared table has the columns that it was declared with. -/
theorem declare_sound {name : String} {columns : List (String × DataType)} {table : Table}
    (declared : declare name columns = .ok table) :
    table.Sound ∧ table.name = name ∧
      table.columns.map (fun c => (c.name, c.ty)) = columns := by
  obtain ⟨⟨types, apart⟩, rfl⟩ := declare_ok_iff.1 declared
  have listed : (columns.mapIdx fun i c => (⟨c.1, c.2, UInt32.ofNat i⟩ : Column)).map
      (fun c => (c.name, c.ty)) = columns := by
    refine List.ext_getElem (by simp) fun i _ _ => ?_
    simp
  refine ⟨⟨?_, ?_⟩, rfl, listed⟩
  · rw [← listed, List.pairwise_map] at apart
    exact apart
  · rw [← listed, List.forall_mem_map] at types
    exact types

/-- As many columns as a position can tell apart are counted from zero. -/
theorem declare_positions {name : String} (declared : declare name columns = .ok t)
    (few : columns.length < UInt32.size) :
    t.columns.map (·.position.toNat) = List.range columns.length := by
  obtain ⟨-, rfl⟩ := declare_ok_iff.1 declared
  refine List.ext_getElem (by simp) fun i inside _ => ?_
  have place : i < UInt32.size := by
    have : i < columns.length := by simpa using inside
    omega
  have counted : (UInt32.ofNat i).toNat = i := UInt32.toNat_ofNat_of_lt' place
  simp only [List.getElem_map, List.getElem_mapIdx, List.getElem_range, counted]

theorem Sound.eq_of_alike (sound : t.Sound) {c d : Column} (left : c ∈ t.columns)
    (right : d ∈ t.columns) (same : Text.alike c.name d.name = true) : c = d := by
  have symm : Std.Symm fun c d : Column => Text.alike c.name d.name = false :=
    ⟨fun c d apart => Bool.eq_false_iff.2 fun same =>
      Bool.eq_false_iff.1 apart (Text.alike_symm same)⟩
  by_cases one : c = d
  · exact one
  · exact absurd same (Bool.eq_false_iff.1 (sound.names_apart.forall left right one))

theorem mem_of_column? {name : String} {c : Column} (found : t.column? name = some c) :
    c ∈ t.columns ∧ Text.alike c.name name = true :=
  ⟨List.mem_of_find?_eq_some found,
    List.find?_some (p := fun c : Column => Text.alike c.name name) found⟩

/-- At most one column has the name that is looked up. -/
theorem Sound.column?_eq_some_iff (sound : t.Sound) {name : String} {c : Column} :
    t.column? name = some c ↔ c ∈ t.columns ∧ Text.alike c.name name = true := by
  refine ⟨mem_of_column?, ?_⟩
  rintro ⟨member, named⟩
  cases found : t.column? name with
  | none => exact absurd named (List.find?_eq_none.1 found c member)
  | some d =>
    obtain ⟨member', named'⟩ := mem_of_column? found
    rw [sound.eq_of_alike member' member (Text.alike_trans named' (Text.alike_symm named))]

end Table
end ScalarSql

import ScalarSql.Scope.Growth
import Mathlib.Data.List.Nodup
import Mathlib.Data.List.Range

/-!
Lists whose items are numbered in their order, all under the number of one scope. An id of such an
item is its place, so looking up the place finds the item of the id, and changing the place changes
that item only.
-/
namespace ScalarSql

/-- The id of an item, here as a pair, is the number of the scope and the place of the item. -/
structure Numbered {α : Type} (number : UInt32) (id : α → UInt32 × UInt32) (l : List α) : Prop where
  fits : l.length ≤ idLimit
  ids : l.map id = (List.range l.length).map fun i => (number, UInt32.ofNat i)

namespace Numbered

variable {α : Type} {number : UInt32} {id : α → UInt32 × UInt32} {l : List α}

theorem nil (number : UInt32) (id : α → UInt32 × UInt32) : Numbered number id [] :=
  ⟨Nat.zero_le _, rfl⟩

theorem append (numbered : Numbered number id l) {x : α} (room : l.length < idLimit)
    (last : id x = (number, UInt32.ofNat l.length)) : Numbered number id (l ++ [x]) := by
  refine ⟨?_, ?_⟩
  · simpa only [List.length_append, List.length_singleton] using Nat.succ_le_of_lt room
  · simp only [List.map_append, numbered.ids, List.length_append, List.length_singleton,
      List.range_succ, List.map_cons, List.map_nil, last]

theorem map (numbered : Numbered number id l) {f : α → α} (kept : ∀ x, id (f x) = id x) :
    Numbered number id (l.map f) := by
  refine ⟨?_, ?_⟩
  · simpa only [List.length_map] using numbered.fits
  · simpa only [List.map_map, List.length_map, Function.comp_def, kept] using numbered.ids

theorem id_eq (numbered : Numbered number id l) {i : Nat} {x : α} (found : l[i]? = some x) :
    id x = (number, UInt32.ofNat i) := by
  obtain ⟨bound, rfl⟩ := List.getElem?_eq_some_iff.1 found
  have ids := congrArg (·[i]?) numbered.ids
  simpa [bound] using ids

/-- An id tells its place. -/
theorem id_iff (numbered : Numbered number id l) {i : Nat} {x : α} (found : l[i]? = some x)
    (index : UInt32) : id x = (number, index) ↔ i = index.toNat := by
  have bound : i < l.length := (List.getElem?_eq_some_iff.1 found).1
  have fits : i < UInt32.size := Nat.lt_of_lt_of_le bound numbered.fits
  rw [numbered.id_eq found, Prod.mk.injEq, ← UInt32.toNat_inj (a := UInt32.ofNat i),
    UInt32.toNat_ofNat_of_lt' fits]
  simp

theorem scope_eq (numbered : Numbered number id l) {x : α} (member : x ∈ l) :
    (id x).1 = number := by
  obtain ⟨i, found⟩ := List.mem_iff_getElem?.1 member
  rw [numbered.id_eq found]

theorem place (numbered : Numbered number id l) {i : Nat} {x : α} (found : l[i]? = some x) :
    (id x).1 = number ∧ (id x).2.toNat = i := by
  have own := numbered.scope_eq (List.mem_of_getElem? found)
  exact ⟨own, ((numbered.id_iff found _).1 (Prod.ext own rfl)).symm⟩

/-- Looking up an id finds the item that has it. -/
theorem lookup_iff (numbered : Numbered number id l) {scope index : UInt32} {x : α} :
    (if scope = number then l[index.toNat]? else none) = some x ↔
      x ∈ l ∧ id x = (scope, index) := by
  by_cases own : scope = number
  · subst own
    rw [if_pos rfl]
    constructor
    · intro found
      exact ⟨List.mem_of_getElem? found, (numbered.id_iff found index).2 rfl⟩
    · intro ⟨member, same⟩
      obtain ⟨i, found⟩ := List.mem_iff_getElem?.1 member
      rw [← (numbered.id_iff found index).1 same, found]
  · rw [if_neg own]
    constructor
    · intro found
      cases found
    · intro ⟨member, same⟩
      have scopes := numbered.scope_eq member
      rw [same] at scopes
      exact absurd scopes own

theorem eq_of_id_eq (numbered : Numbered number id l) {x y : α} (left : x ∈ l) (right : y ∈ l)
    (same : id x = id y) : x = y := by
  have found := numbered.lookup_iff.2 ⟨left, same⟩
  rw [numbered.lookup_iff.2 ⟨right, rfl⟩] at found
  exact (Option.some.inj found).symm

/-- Changing the place of an id changes the item that has it. -/
theorem modify_eq (numbered : Numbered number id l) (index : UInt32) (f : α → α) :
    l.modify index.toNat f = l.map fun x => if id x = (number, index) then f x else x := by
  apply List.ext_getElem?
  intro j
  rw [List.getElem?_modify, List.getElem?_map]
  cases found : l[j]? with
  | none => rfl
  | some x =>
    have here := numbered.id_iff found index
    by_cases same : j = index.toNat
    · simp [← same, here.2 same]
    · have elsewhere : id x ≠ (number, index) := fun holds => same (here.1 holds)
      simp [Ne.symm same, elsewhere]

theorem nodup (numbered : Numbered number id l) : (l.map id).Nodup := by
  rw [numbered.ids]
  refine List.Nodup.map_on ?_ List.nodup_range
  intro i left j right same
  have fits : ∀ {k}, k ∈ List.range l.length → k < UInt32.size := fun member =>
    Nat.lt_of_lt_of_le (List.mem_range.1 member) numbered.fits
  have places := congrArg (fun id => id.2.toNat) same
  simpa only [UInt32.toNat_ofNat_of_lt' (fits left), UInt32.toNat_ofNat_of_lt' (fits right)]
    using places

theorem ascending (numbered : Numbered number id l) :
    l.Pairwise fun x y => (id x).1 = (id y).1 ∧ (id x).2 < (id y).2 := by
  rw [List.pairwise_iff_getElem]
  intro i j left right less
  have fits : ∀ {k}, k < l.length → k < UInt32.size := fun bound =>
    Nat.lt_of_lt_of_le bound numbered.fits
  rw [numbered.id_eq (List.getElem?_eq_getElem left),
    numbered.id_eq (List.getElem?_eq_getElem right)]
  refine ⟨rfl, UInt32.lt_iff_toNat_lt.2 ?_⟩
  rwa [UInt32.toNat_ofNat_of_lt' (fits left), UInt32.toNat_ofNat_of_lt' (fits right)]

end Numbered
end ScalarSql

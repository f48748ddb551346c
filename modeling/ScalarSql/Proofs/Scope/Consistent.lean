import ScalarSql.Proofs.Scope.Numbering
import ScalarSql.Proofs.Scope.Requests

/-!
Tuples and slots of a scope refer to each other: a slot names its tuple, and a tuple lists its
slots. Calls keep the two in agreement (`Sound`), and with it the numbering of ids and the
uniqueness of reference names. From this follows what a caller can rely on (`Consistent`).
-/
namespace ScalarSql

/-- No one name goes for both tuples, whatever the case of its letters. -/
def Tuple.NamedApart (t u : Tuple) : Prop :=
  ∀ a ∈ t.reference?, ∀ b ∈ u.reference?, Text.alike a b = false

instance : Std.Symm Tuple.NamedApart where
  symm := by
    intro t u apart b right a left
    apply Bool.eq_false_iff.2
    intro same
    have contrary := apart a left b right
    rw [Text.alike_symm same] at contrary
    cases contrary

theorem TupleId.pair_inj {a b : TupleId} : (a.scope, a.index) = (b.scope, b.index) ↔ a = b := by
  cases a
  cases b
  simp

theorem SlotId.pair_inj {a b : SlotId} : (a.scope, a.index) = (b.scope, b.index) ↔ a = b := by
  cases a
  cases b
  simp

namespace Scope

/-- The invariant of a scope. -/
structure Sound (s : Scope) : Prop where
  tuples : Numbered s.number (fun t => (t.id.scope, t.id.index)) s.tuples
  slots : Numbered s.number (fun x => (x.id.scope, x.id.index)) s.slots
  parents : ∀ x ∈ s.slots, ∃ t ∈ s.tuples, t.id = x.parent
  members : ∀ t ∈ s.tuples, t.slots = (s.slots.filter (·.parent = t.id)).map (·.id)
  names_apart : s.tuples.Pairwise Tuple.NamedApart

variable {s : Scope}

theorem sound_empty (number : UInt32) : Sound { number } where
  tuples := .nil _ _
  slots := .nil _ _
  parents := by simp
  members := by simp
  names_apart := List.Pairwise.nil

namespace Sound

/-- Exactly the tuples of the scope are found, each under its id. -/
theorem tuple?_eq_some_iff (sound : s.Sound) {id : TupleId} {t : Tuple} :
    s.tuple? id = some t ↔ t ∈ s.tuples ∧ t.id = id := by
  rw [← TupleId.pair_inj]
  exact sound.tuples.lookup_iff

theorem slot?_eq_some_iff (sound : s.Sound) {id : SlotId} {x : Slot} :
    s.slot? id = some x ↔ x ∈ s.slots ∧ x.id = id := by
  rw [← SlotId.pair_inj]
  exact sound.slots.lookup_iff

theorem eq_of_tuple_id_eq (sound : s.Sound) {t u : Tuple} (left : t ∈ s.tuples)
    (right : u ∈ s.tuples) (same : t.id = u.id) : t = u :=
  sound.tuples.eq_of_id_eq left right (TupleId.pair_inj.2 same)

theorem eq_of_slot_id_eq (sound : s.Sound) {x y : Slot} (left : x ∈ s.slots) (right : y ∈ s.slots)
    (same : x.id = y.id) : x = y :=
  sound.slots.eq_of_id_eq left right (SlotId.pair_inj.2 same)

/-- The next id of a kind is new. -/
theorem tuple_id_ne_next (sound : s.Sound) (fits : s.tuples.length < idLimit) {t : Tuple}
    (member : t ∈ s.tuples) : t.id ≠ s.nextTuple := by
  intro same
  have found := sound.tuple?_eq_some_iff.2 ⟨member, same⟩
  rw [tuple?_nextTuple fits] at found
  cases found

/-- No slot names the next tuple yet. -/
theorem parent_ne_next (sound : s.Sound) (fits : s.tuples.length < idLimit) {x : Slot}
    (member : x ∈ s.slots) : x.parent ≠ s.nextTuple := by
  intro names
  obtain ⟨t, owner, parent⟩ := sound.parents x member
  exact sound.tuple_id_ne_next fits owner (parent.trans names)

theorem filter_parent_next (sound : s.Sound) (fits : s.tuples.length < idLimit) :
    s.slots.filter (·.parent = s.nextTuple) = [] := by
  rw [List.filter_eq_nil_iff]
  intro x member names
  exact sound.parent_ne_next fits member (of_decide_eq_true names)

theorem nodup_tuple_ids (sound : s.Sound) : (s.tuples.map (·.id)).Nodup := by
  have pairs := sound.tuples.nodup
  rw [← Function.comp_def (fun id : TupleId => (id.scope, id.index)), ← List.map_map] at pairs
  exact pairs.of_map

theorem nodup_slot_ids (sound : s.Sound) : (s.slots.map (·.id)).Nodup := by
  have pairs := sound.slots.nodup
  rw [← Function.comp_def (fun id : SlotId => (id.scope, id.index)), ← List.map_map] at pairs
  exact pairs.of_map

/-- The slots of a tuple are those that name it, in the order in which they were added. -/
theorem tupleSlots_eq_filter (sound : s.Sound) (id : TupleId) :
    s.tupleSlots id = s.slots.filter (·.parent = id) := by
  unfold tupleSlots
  cases found : s.tuple? id with
  | some t =>
    obtain ⟨member, rfl⟩ := sound.tuple?_eq_some_iff.1 found
    have looked : ∀ x ∈ s.slots.filter (·.parent = t.id), (s.slot? ∘ (·.id)) x = some x :=
      fun x inside => sound.slot?_eq_some_iff.2 ⟨(List.mem_filter.1 inside).1, rfl⟩
    show t.slots.filterMap s.slot? = _
    rw [sound.members t member, List.filterMap_map, List.filterMap_congr looked,
      List.filterMap_some]
  | none =>
    symm
    rw [List.filter_eq_nil_iff]
    intro x inside names
    obtain ⟨t, owner, parent⟩ := sound.parents x inside
    rw [sound.tuple?_eq_some_iff.2 ⟨owner, parent.trans (of_decide_eq_true names)⟩] at found
    cases found

theorem modify_tuple (sound : s.Sound) {owner : Tuple} (present : owner ∈ s.tuples)
    (f : Tuple → Tuple) : s.tuples.modify owner.id.index.toNat f =
      s.tuples.map fun t => if t.id = owner.id then f t else t := by
  have own : owner.id.scope = s.number := sound.tuples.scope_eq present
  rw [sound.tuples.modify_eq, ← own]
  simp only [TupleId.pair_inj]

/-- Setting a slot changes the slot of the id and no other. -/
theorem updateSlot_eq (sound : s.Sound) (id : SlotId) (change : Slot → Slot) :
    s.updateSlot id change =
      { s with slots := s.slots.map fun x => if x.id = id then change x else x } := by
  unfold Scope.updateSlot
  by_cases own : id.scope = s.number
  · rw [if_pos own, sound.slots.modify_eq, ← own]
    simp only [SlotId.pair_inj]
  · rw [if_neg own]
    have untouched : s.slots.map (fun x => if x.id = id then change x else x) = s.slots := by
      refine (List.map_congr_left fun x member => if_neg ?_).trans (List.map_id _)
      rintro rfl
      exact own (sound.slots.scope_eq member)
    rw [untouched]

/-! ### What calls preserve -/

theorem updateSlot (sound : s.Sound) (id : SlotId) {change : Slot → Slot}
    (keeps_id : ∀ x, (change x).id = x.id) (keeps_parent : ∀ x, (change x).parent = x.parent) :
    (s.updateSlot id change).Sound := by
  rw [sound.updateSlot_eq]
  have ids : ∀ x : Slot, (if x.id = id then change x else x).id = x.id := by
    intro x
    split
    · exact keeps_id x
    · rfl
  have owners : ∀ x : Slot, (if x.id = id then change x else x).parent = x.parent := by
    intro x
    split
    · exact keeps_parent x
    · rfl
  refine ⟨sound.tuples, sound.slots.map fun x => by rw [ids], ?_, ?_, sound.names_apart⟩
  · simpa only [List.forall_mem_map, owners] using sound.parents
  · simpa only [List.filter_map, List.map_map, Function.comp_def, ids, owners] using sound.members

theorem newTuple (sound : s.Sound) {table : Option Table} {aliasName : Option String}
    {id : TupleId} {grown : Scope}
    (free : ∀ t ∈ s.tuples, t.NamedApart ⟨s.nextTuple, table, aliasName, []⟩)
    (success : s.newTuple table aliasName = .ok (id, grown)) : grown.Sound := by
  obtain ⟨fits, rfl, rfl⟩ := newTuple_ok_iff.1 success
  refine ⟨sound.tuples.append fits rfl, sound.slots, ?_, ?_, ?_⟩
  · intro x member
    obtain ⟨t, present, parent⟩ := sound.parents x member
    exact ⟨t, List.mem_append_left _ present, parent⟩
  · intro t member
    rcases List.mem_append.1 member with present | added
    · exact sound.members t present
    · obtain rfl := List.mem_singleton.1 added
      show [] = _
      rw [sound.filter_parent_next fits]
      rfl
  · rw [List.pairwise_append]
    refine ⟨sound.names_apart, List.pairwise_singleton _ _, ?_⟩
    intro t present u added
    obtain rfl := List.mem_singleton.1 added
    exact free t present

theorem newSlot (sound : s.Sound) {tuple : TupleId} {fill : Slot → Slot} {id : SlotId}
    {grown : Scope} (keeps_id : ∀ x, (fill x).id = x.id)
    (keeps_parent : ∀ x, (fill x).parent = x.parent)
    (success : s.newSlot tuple fill = .ok (id, grown)) : grown.Sound := by
  obtain ⟨registered, fits, rfl, rfl⟩ := newSlot_ok_iff.1 success
  obtain ⟨owner, found⟩ := Option.isSome_iff_exists.1 registered
  obtain ⟨present, rfl⟩ := sound.tuple?_eq_some_iff.1 found
  rw [sound.modify_tuple present]
  have ids : ∀ t : Tuple,
      (if t.id = owner.id then { t with slots := t.slots ++ [s.nextSlot] } else t).id = t.id := by
    intro t
    split <;> rfl
  have names : ∀ t : Tuple, (if t.id = owner.id then { t with slots := t.slots ++ [s.nextSlot] }
      else t).reference? = t.reference? := by
    intro t
    split <;> rfl
  refine ⟨sound.tuples.map fun t => by rw [ids], sound.slots.append fits ?_, ?_, ?_, ?_⟩
  · rw [keeps_id]
    rfl
  · intro x member
    have parent : ∃ t ∈ s.tuples, t.id = x.parent := by
      rcases List.mem_append.1 member with old | added
      · exact sound.parents x old
      · obtain rfl := List.mem_singleton.1 added
        exact ⟨owner, present, (keeps_parent { id := s.nextSlot, parent := owner.id }).symm⟩
    obtain ⟨t, inside, same⟩ := parent
    exact ⟨_, List.mem_map_of_mem inside, (ids t).trans same⟩
  · rw [List.forall_mem_map]
    intro t inside
    rw [ids, List.filter_append, List.map_append]
    by_cases same : t.id = owner.id
    · rw [if_pos same]
      simp [sound.members t inside, keeps_id, keeps_parent, same]
    · rw [if_neg same]
      simp [sound.members t inside, keeps_parent, Ne.symm same]
  · simp only [List.pairwise_map, Tuple.NamedApart, names]
    exact sound.names_apart

end Sound

/-! ### What callers rely on -/

/-- Ids are places, each slot is listed once by the tuple that it names and by no other, lists of
slots ascend, names of tuples differ beyond case, and an id finds and changes what has that id. -/
structure Consistent (s : Scope) : Prop where
  tuple_at : ∀ (i : Nat) (t : Tuple), s.tuples[i]? = some t →
    t.id.scope = s.number ∧ t.id.index.toNat = i
  slot_at : ∀ (i : Nat) (x : Slot), s.slots[i]? = some x →
    x.id.scope = s.number ∧ x.id.index.toNat = i
  owner : ∀ x ∈ s.slots, ∃ t ∈ s.tuples, t.id = x.parent ∧ t.slots.count x.id = 1 ∧
    ∀ u ∈ s.tuples, x.id ∈ u.slots → u = t
  ascending : ∀ t ∈ s.tuples, t.slots.Pairwise fun a b => a.scope = b.scope ∧ a.index < b.index
  tupleSlots : ∀ id, s.tupleSlots id = s.slots.filter (·.parent = id)
  listed : ∀ t ∈ s.tuples, t.slots = (s.tupleSlots t.id).map (·.id)
  names_apart : s.tuples.Pairwise Tuple.NamedApart
  finds_tuple : ∀ (id : TupleId) (t : Tuple), s.tuple? id = some t ↔ t ∈ s.tuples ∧ t.id = id
  finds_slot : ∀ (id : SlotId) (x : Slot), s.slot? id = some x ↔ x ∈ s.slots ∧ x.id = id
  changes_slot : ∀ id change, s.updateSlot id change =
    { s with slots := s.slots.map fun x => if x.id = id then change x else x }

namespace Sound

theorem owner (sound : s.Sound) {x : Slot} (member : x ∈ s.slots) :
    ∃ t ∈ s.tuples, t.id = x.parent ∧ t.slots.count x.id = 1 ∧
      ∀ u ∈ s.tuples, x.id ∈ u.slots → u = t := by
  obtain ⟨t, owner, parent⟩ := sound.parents x member
  refine ⟨t, owner, parent, ?_, ?_⟩
  · have listed : x.id ∈ t.slots := by
      rw [sound.members t owner]
      exact List.mem_map_of_mem (List.mem_filter.2 ⟨member, decide_eq_true parent.symm⟩)
    have once : t.slots.Nodup := by
      rw [sound.members t owner]
      exact sound.nodup_slot_ids.sublist (List.filter_sublist.map _)
    exact List.count_eq_one_of_mem once listed
  · intro u other listed
    rw [sound.members u other] at listed
    obtain ⟨y, inside, same⟩ := List.mem_map.1 listed
    obtain ⟨present, names⟩ := List.mem_filter.1 inside
    have equal : y = x := sound.eq_of_slot_id_eq present member same
    have owners : u.id = t.id := by
      rw [← of_decide_eq_true names, equal, parent]
    exact sound.eq_of_tuple_id_eq other owner owners

theorem ascending (sound : s.Sound) {t : Tuple} (member : t ∈ s.tuples) :
    t.slots.Pairwise fun a b => a.scope = b.scope ∧ a.index < b.index := by
  rw [sound.members t member, List.pairwise_map]
  exact sound.slots.ascending.sublist List.filter_sublist

theorem consistent (sound : s.Sound) : s.Consistent where
  tuple_at := fun _ _ found => sound.tuples.place found
  slot_at := fun _ _ found => sound.slots.place found
  owner := fun _ member => sound.owner member
  ascending := fun _ member => sound.ascending member
  tupleSlots := sound.tupleSlots_eq_filter
  listed := by
    intro t member
    rw [sound.tupleSlots_eq_filter]
    exact sound.members t member
  names_apart := sound.names_apart
  finds_tuple := fun _ _ => sound.tuple?_eq_some_iff
  finds_slot := fun _ _ => sound.slot?_eq_some_iff
  changes_slot := sound.updateSlot_eq

end Sound

end Scope
end ScalarSql

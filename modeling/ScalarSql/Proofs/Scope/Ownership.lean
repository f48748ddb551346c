import ScalarSql.Proofs.Analysis.Success
import ScalarSql.Proofs.Scope.Runs
import ScalarSql.Proofs.Tree.References
import ScalarSql.Proofs.Typing.Rules
import ScalarSql.Scope.Names

/-!
Binding and ownership. A reference names a slot and a tuple; analysis looks up the slot, binding
compares the tuple, and neither asks whether the two belong together. They do in references made
from slots and from names, at whatever point of a session, and in those that name a slot with its
own tuple. A tree with such references only is bound by the tuples that own its slots
(`bound_iff_owned`); a reference to a slot under another tuple is accepted too, and bound by that
other tuple (`misnamed_owner_binds`).
-/
namespace ScalarSql

/-- The slot of each reference of an accepted tree is in the scope. -/
theorem Analyzer.eachRef_found {a : Analyzer} {e : Expr} (success : (a.analyze e).failure = none) :
    e.EachRef fun ref => ∃ x, a.scope.slot? ref.slot = some x := by
  obtain ⟨kinds, settled, -, -⟩ := analyze_ok_iff.1 ⟨success, rfl⟩
  intro n inside ref reference
  obtain ⟨m, inside', same⟩ := Expr.exists_kind_of_bare_eq kinds inside
  have rule := settled m inside'
  rw [same, reference] at rule
  generalize m.ty = t at rule
  cases (slotType_ok_iff a).1 rule with
  | slot found _ => exact ⟨_, found⟩

namespace Scope

/-- References made over a scope: to a slot as it is labelled, to what a name stands for, and by the
ids of a slot and of its tuple. -/
inductive Refers (s : Scope) : SlotRef → Prop
  | slot {x : Slot} : x ∈ s.slots → Refers s x.ref
  | name {qualifier : Option String} {column : String} {ref : SlotRef} :
      s.resolveColumn qualifier column = .ok (.slot ref) → Refers s ref
  | ids {x : Slot} : x ∈ s.slots → Refers s ⟨x.parent, x.id, none⟩

variable {s : Scope}

theorem mem_slots_of_slot? {id : SlotId} {x : Slot} (found : s.slot? id = some x) :
    x ∈ s.slots := by
  unfold slot? at found
  split at found
  next => exact List.mem_of_getElem? found
  next => cases found

theorem mem_slots_of_tupleSlots {id : TupleId} {x : Slot} (member : x ∈ s.tupleSlots id) :
    x ∈ s.slots := by
  unfold tupleSlots at member
  split at member
  next =>
    obtain ⟨_, -, found⟩ := List.mem_filterMap.1 member
    exact mem_slots_of_slot? found
  next => cases member

/-- A name stands for a slot of the scope, under its own tuple. -/
theorem resolveColumn_ok {qualifier : Option String} {column : String} {e : Expr}
    (resolved : s.resolveColumn qualifier column = .ok e) : ∃ x ∈ s.slots, e = .slot x.ref := by
  unfold resolveColumn at resolved
  split at resolved
  next reference =>
    split at resolved
    next => cases resolved
    next =>
      split at resolved
      next x found =>
        cases resolved
        obtain ⟨t, -, first⟩ := Option.bind_eq_some_iff.1 found
        exact ⟨x, mem_slots_of_tupleSlots (List.mem_of_find?_eq_some first), rfl⟩
      next => cases resolved
  next =>
    split at resolved
    next => cases resolved
    next x found =>
      cases resolved
      have listed : x ∈ s.columnSlots column := by
        rw [found]
        exact List.mem_singleton_self x
      obtain ⟨t, -, member⟩ := List.mem_flatMap.1 (List.mem_filter.1 listed).1
      exact ⟨x, mem_slots_of_tupleSlots member, rfl⟩
    next => cases resolved

theorem Refers.exists_slot {ref : SlotRef} (refers : s.Refers ref) :
    ∃ x ∈ s.slots, ref.slot = x.id ∧ ref.tuple = x.parent := by
  cases refers with
  | slot member => exact ⟨_, member, rfl, rfl⟩
  | ids member => exact ⟨_, member, rfl, rfl⟩
  | name resolved =>
    obtain ⟨x, member, same⟩ := resolveColumn_ok resolved
    cases same
    exact ⟨x, member, rfl, rfl⟩

end Scope

namespace Pool

variable {p : Pool}

theorem Sound.eq_of_number_eq (sound : p.Sound) (few : p.scopes.length < UInt32.size) {s t : Scope}
    (left : s ∈ p.scopes) (right : t ∈ p.scopes) (same : s.number = t.number) : s = t := by
  have symm : Std.Symm fun s t : Scope => s.number ≠ t.number := ⟨fun _ _ => Ne.symm⟩
  by_contra different
  exact (sound.numbers_apart few).forall left right different same

theorem Extends.exists_scope {later : Pool} (extension : later.Extends p) {s : Scope}
    (member : s ∈ p.scopes) : ∃ t ∈ later.scopes, t.Extends s := by
  obtain ⟨i, place⟩ := List.mem_iff_getElem?.1 member
  obtain ⟨t, found, extends_s⟩ := extension (i + 1) s (scope?_eq_some_iff.2 ⟨i, rfl, place⟩)
  obtain ⟨j, -, place'⟩ := scope?_eq_some_iff.1 found
  exact ⟨t, List.mem_of_getElem? place', extends_s⟩

/-- The reference is made over a scope of the session, at some point of the run. -/
def Made (requests : List Request) (ref : SlotRef) : Prop :=
  ∃ before after, requests = before ++ after ∧ ∃ s ∈ (run {} before).2.scopes, s.Refers ref

theorem sound_empty : Sound {} := by
  intro i s found
  cases found

/-- Whenever it was made, the reference still names the tuple of its slot. -/
theorem Made.tuple_eq_parent {requests : List Request} {ref : SlotRef} (made : Made requests ref)
    (few : (run {} requests).2.scopes.length < UInt32.size) {s : Scope}
    (member : s ∈ (run {} requests).2.scopes) {y : Slot} (found : s.slot? ref.slot = some y) :
    ref.tuple = y.parent := by
  obtain ⟨before, after, rfl, t, earlier, refers⟩ := made
  obtain ⟨x, present, slot, tuple⟩ := refers.exists_slot
  have sound := sound_empty.run (before ++ after)
  have extension : (run {} (before ++ after)).2.Extends (run {} before).2 := by
    rw [run_append]
    exact (sound_empty.run before).run_extends after
  obtain ⟨u, later, extends_t⟩ := extension.exists_scope earlier
  obtain ⟨z, present', same, owner⟩ := extends_t.exists_slot present
  obtain ⟨inside, id⟩ := (sound.scope_sound member).slot?_eq_some_iff.1 found
  -- both scopes have a slot of this id, so they are the same scope and the slots the same slot
  have ids : y.id = z.id := by rw [id, slot, same]
  have numbers : s.number = u.number := by
    rw [← (sound.scope_sound member).slots.scope_eq inside, ids,
      (sound.scope_sound later).slots.scope_eq present']
  obtain rfl := sound.eq_of_number_eq few member later numbers
  rw [(sound.scope_sound member).eq_of_slot_id_eq inside present' ids, owner, tuple]

/-- An accepted tree is bound by the tuples that its references name. As long as scopes have numbers
of their own, if these references are made from slots, names, or the ids of slots and their own
tuples, it is bound exactly by the tuples that own all slots it refers to. -/
theorem bound_iff_owned {requests : List Request} {a : Analyzer} {e : Expr}
    (member : a.scope ∈ (run {} requests).2.scopes) (built : e.Built)
    (success : (a.analyze e).failure = none) (tuples : List TupleId) :
    (e.boundBy tuples = true ↔ e.EachRef fun ref => ref.tuple ∈ tuples) ∧
      ((run {} requests).2.scopes.length < UInt32.size → e.EachRef (Made requests) →
        (e.boundBy tuples = true ↔
          e.EachRef fun ref => ∃ x, a.scope.slot? ref.slot = some x ∧ x.parent ∈ tuples)) := by
  have named : e.boundBy tuples = true ↔ e.EachRef fun ref => ref.tuple ∈ tuples :=
    Expr.boundBy_iff (Expr.built_fitsArity built)
  refine ⟨named, ?_⟩
  intro few made
  rw [named]
  constructor
  · intro bound n inside ref reference
    obtain ⟨x, found⟩ := Analyzer.eachRef_found success n inside ref reference
    have owner := (made n inside ref reference).tuple_eq_parent few member found
    exact ⟨x, found, owner ▸ bound n inside ref reference⟩
  · intro owned n inside ref reference
    obtain ⟨x, found, parent⟩ := owned n inside ref reference
    rw [(made n inside ref reference).tuple_eq_parent few member found]
    exact parent

/-- A column resolved before its slot gets another label, beside a slot named by its ids. -/
theorem relabeled_column_bound_by_owner :
    let users : Table := ⟨"users", [⟨"id", .int, 0⟩]⟩
    let before : List Request := [.openScope, .openScope, .call 2 (.register users (some "u"))]
    let after : List Request := [.call 2 .createTuple, .call 2 (.addSlot ⟨2, 1⟩),
      .call 2 (.set ⟨2, 1⟩ (.type .double)), .call 2 (.set ⟨2, 0⟩ (.label "id"))]
    let s := Scope.run { number := 2 } [.register users (some "u"), .createTuple, .addSlot ⟨2, 1⟩,
      .set ⟨2, 1⟩ (.type .double), .set ⟨2, 0⟩ (.label "id")]
    let column : SlotRef := ⟨⟨2, 0⟩, ⟨2, 0⟩, some "u.id"⟩
    let computed : SlotRef := ⟨⟨2, 1⟩, ⟨2, 1⟩, none⟩
    let e : Expr := .comparison .lt (.slot column) (.slot computed)
    let owned (tuples : List TupleId) : Prop :=
      e.EachRef fun ref => ∃ x, s.slot? ref.slot = some x ∧ x.parent ∈ tuples
    s ∈ (run {} (before ++ after)).2.scopes ∧ (Analyzer.analyze { scope := s } e).failure = none ∧
      e.EachRef (Made (before ++ after)) ∧ owned [⟨2, 1⟩, ⟨2, 0⟩] ∧ ¬ owned [⟨2, 1⟩, ⟨1, 0⟩] := by
  intro users before after s column computed e owned
  have few : (run {} (before ++ after)).2.scopes.length < UInt32.size := by decide +kernel
  have member : s ∈ (run {} (before ++ after)).2.scopes := by decide +kernel
  have built : e.Built := .comparison _ (.slot _) (.slot _)
  have success : (Analyzer.analyze { scope := s } e).failure = none := by decide +kernel
  have resolved : Made (before ++ after) column :=
    ⟨before, after, rfl, Scope.run { number := 2 } [.register users (some "u")], by decide +kernel,
      .name (rfl : Scope.resolveColumn _ (some "U") "ID" = .ok (.slot column))⟩
  have named : Made (before ++ after) computed :=
    ⟨before ++ after, [], (List.append_nil _).symm, s, member,
      .ids (x := { id := ⟨2, 1⟩, parent := ⟨2, 1⟩, ty := .double }) (by decide +kernel)⟩
  have made : e.EachRef (Made (before ++ after)) := by
    refine Expr.eachRef_node.2 ⟨nofun, List.forall_mem_cons.2 ⟨Expr.eachRef_slot.2 resolved, ?_⟩⟩
    exact List.forall_mem_singleton.2 (Expr.eachRef_slot.2 named)
  have bound : ∀ tuples, e.boundBy tuples = true ↔ owned tuples := fun tuples =>
    (bound_iff_owned (a := { scope := s }) member built success tuples).2 few made
  refine ⟨member, success, made, (bound _).1 (by decide), ?_⟩
  rw [← bound]
  decide

/-- A slot under the id of another tuple is accepted: it is bound by that tuple, which does not own
it, and not by its own. -/
theorem misnamed_owner_binds :
    let requests : List Request := [.openScope, .call 1 .createTuple, .call 1 .createTuple,
      .call 1 (.addSlot ⟨1, 0⟩), .call 1 (.set ⟨1, 0⟩ (.type .int))]
    let x : Slot := { id := ⟨1, 0⟩, parent := ⟨1, 0⟩, ty := .int }
    let other : Tuple := { id := ⟨1, 1⟩ }
    let s : Scope :=
      { number := 1, tuples := [{ id := x.parent, slots := [x.id] }, other], slots := [x] }
    let e : Expr := .slot ⟨other.id, x.id, none⟩
    let owned (tuples : List TupleId) : Prop :=
      e.EachRef fun ref => ∃ y, s.slot? ref.slot = some y ∧ y.parent ∈ tuples
    (run {} requests).2.scopes = [s] ∧ e.Built ∧
      (Analyzer.analyze { scope := s } e).failure = none ∧
      ¬ (e.boundBy [other.id] = true ↔ owned [other.id]) ∧
      ¬ (e.boundBy [x.parent] = true ↔ owned [x.parent]) := by
  intro requests x other s e owned
  have owner : ∀ tuples, owned tuples ↔ x.parent ∈ tuples := by
    intro tuples
    refine Expr.eachRef_slot.trans ⟨?_, fun member => ⟨x, rfl, member⟩⟩
    rintro ⟨y, found, member⟩
    cases found
    exact member
  refine ⟨by decide +kernel, .slot _, by decide, ?_, ?_⟩
  · rw [owner]
    decide
  · rw [owner]
    decide

end Pool
end ScalarSql

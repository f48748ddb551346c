import ScalarSql.Proofs.Scope.Resolution

/-!
Qualified against unqualified names. In a run that binds slots to columns only by registering
tables, every bound slot belongs to a tuple with a name, and a tuple has one slot at most for a
column name (`Catalogued`). The slots that an unqualified name finds are then those that it finds
under the names of the registered tables, one for each, so that the number of these names alone
tells what an unqualified name stands for (`unqualified_eq_qualified`).
-/
namespace ScalarSql
namespace Scope

variable {s : Scope}

/-- The call registers declared tables only, and sets no column. -/
def Request.Orderly : Request → Prop
  | .register table _ => ∃ name columns, Table.declare name columns = .ok table
  | .set _ (.column _) => False
  | _ => True

/-- The names of registered tables under which the column is found. -/
def readers (s : Scope) (column : String) : List String :=
  (s.tuples.filterMap Tuple.reference?).filter fun reference =>
    (s.resolveColumn (some reference) column).isOk

/-- The two slots are not bound to columns of one name as slots of one tuple. -/
def ColumnsApart (x y : Slot) : Prop :=
  x.parent = y.parent → ∀ c ∈ x.column, ∀ d ∈ y.column, Text.alike c.name d.name = false

/-- Bound slots belong to named tuples, and a tuple has a column name once at most. -/
structure Catalogued (s : Scope) : Prop where
  named : ∀ x ∈ s.slots, x.column.isSome →
    ∃ t ∈ s.tuples, t.id = x.parent ∧ t.reference?.isSome
  apart : s.slots.Pairwise ColumnsApart

theorem catalogued_empty (number : UInt32) : Catalogued { number } where
  named := by simp
  apart := List.Pairwise.nil

namespace Catalogued

/-- New slots leave a scope catalogued if their tuples have names and do not have the column yet. -/
theorem append {later : Scope} (kept : s.Catalogued) (extension : later.Extends s)
    {added : List Slot} (slots : later.slots = s.slots ++ added)
    (named : ∀ x ∈ added, x.column.isSome →
      ∃ t ∈ later.tuples, t.id = x.parent ∧ t.reference?.isSome)
    (apart : added.Pairwise ColumnsApart)
    (across : ∀ x ∈ s.slots, ∀ y ∈ added, ColumnsApart x y) : later.Catalogued := by
  refine ⟨?_, ?_⟩
  · intro x member bound
    rw [slots] at member
    rcases List.mem_append.1 member with old | new
    · obtain ⟨t, present, owner, name⟩ := kept.named x old bound
      obtain ⟨u, present', id, name'⟩ := extension.exists_tuple present
      exact ⟨u, present', id.trans owner, name' ▸ name⟩
    · exact named x new bound
  · rw [slots, List.pairwise_append]
    exact ⟨kept.apart, apart, across⟩

/-- The slots of a declared table have the names of its columns, which are apart. -/
theorem reads_apart {id : TupleId} {columns : List Column} {added : List Slot}
    (names : columns.Pairwise fun c d => Text.alike c.name d.name = false)
    (reads : List.Forall₂ (fun c x => x.Reads id c) columns added) :
    added.Pairwise ColumnsApart := by
  induction reads with
  | nil => exact List.Pairwise.nil
  | @cons c x columns added read rest ih =>
    obtain ⟨first, others⟩ := List.pairwise_cons.1 names
    refine List.pairwise_cons.2 ⟨?_, ih others⟩
    intro y member _ c' bound d' bound'
    obtain ⟨d, inside, read'⟩ := exists_mem_of_forall₂ rest member
    rw [read.column, Option.mem_some_iff] at bound
    rw [read'.column, Option.mem_some_iff] at bound'
    subst bound bound'
    exact first d inside

/-- A tuple for columns of different names keeps a scope catalogued. -/
theorem opens (kept : s.Catalogued) (sound : s.Sound) {grown : Scope} {table : Table}
    {aliasName : Option String} {columns : List Column}
    (names : columns.Pairwise fun c d => Text.alike c.name d.name = false)
    (opens : s.Opens grown table aliasName columns) : grown.Catalogued := by
  obtain ⟨-, opened, added, slots, reads⟩ := opens.effect
  have owned : ∀ x ∈ added, x.parent = s.nextTuple := by
    intro x member
    obtain ⟨c, -, read⟩ := exists_mem_of_forall₂ reads member
    exact read.parent
  refine kept.append opens.extends_scope slots ?_ (reads_apart names reads) ?_
  · intro x member _
    have last : ⟨s.nextTuple, some table, aliasName, []⟩ ∈ grown.tuples.map Tuple.emptied := by
      rw [opened]
      exact List.mem_append_right _ List.mem_cons_self
    obtain ⟨t, present, made⟩ := List.mem_map.1 last
    refine ⟨t, present, (congrArg Tuple.id made).trans (owned x member).symm, ?_⟩
    show t.emptied.reference?.isSome
    rw [made, reference?_registered]
    rfl
  · -- an old slot does not belong to the tuple that has just been opened
    intro x old y new same
    exact absurd (same.trans (owned y new)) (sound.parent_ne_next opens.fits old)

/-- Setting a type or a label binds and unbinds nothing. -/
theorem set (kept : s.Catalogued) (sound : s.Sound) {id : SlotId} {setting : Setting}
    (unbinding : ∀ x, (setting.apply x).column = x.column) :
    (s.updateSlot id setting.apply).Catalogued := by
  rw [sound.updateSlot_eq]
  have columns : ∀ x : Slot, (if x.id = id then setting.apply x else x).column = x.column := by
    intro x
    rw [apply_ite Slot.column, unbinding, ite_self]
  have owners : ∀ x : Slot, (if x.id = id then setting.apply x else x).parent = x.parent := by
    intro x
    rw [apply_ite Slot.parent, setting.apply_parent, ite_self]
  refine ⟨?_, ?_⟩
  · simpa only [List.forall_mem_map, columns, owners] using kept.named
  · rw [List.pairwise_map]
    refine kept.apart.imp ?_
    intro x y apart
    simpa only [ColumnsApart, columns, owners] using apart

theorem perform (kept : s.Catalogued) (sound : s.Sound) {request : Request}
    (orderly : request.Orderly) : (s.perform request).2.Catalogued := by
  have extension := sound.perform_extends request
  revert orderly extension
  apply sound.perform_cases (motive := fun request result =>
    request.Orderly → result.2.Extends s → result.2.Catalogued)
  · intro _ _ _
    exact kept
  · intro id grown success _ extension
    obtain ⟨-, -, rfl⟩ := createTuple_ok_iff.1 success
    exact kept.append extension (List.append_nil _).symm (by simp) List.Pairwise.nil (by simp)
  · intro tuple id grown success _ extension
    obtain ⟨-, -, -, rfl⟩ := newSlot_ok_iff.1 success
    refine kept.append extension rfl ?_ (List.pairwise_singleton _ _) ?_
    · simp
    · intro x _ y new _ c _ d bound
      obtain rfl := List.mem_singleton.1 new
      cases bound
  · intro table aliasName grown columns starts opens orderly _
    obtain ⟨name, declarations, declared⟩ := orderly
    have names := (Table.declare_sound declared).1.names_apart
    exact kept.opens sound (names.sublist starts.sublist) opens
  · intro id setting orderly _
    refine kept.set sound ?_
    intro x
    cases setting with
    | type ty => rfl
    | column bound => exact orderly.elim
    | label text => rfl

theorem run (kept : s.Catalogued) (sound : s.Sound) {requests : List Request}
    (orderly : ∀ request ∈ requests, request.Orderly) : (s.run requests).Catalogued := by
  induction requests generalizing s with
  | nil => exact kept
  | cons request rest ih =>
    refine ih (kept.perform sound (orderly request List.mem_cons_self)) (sound.perform request) ?_
    intro other member
    exact orderly other (List.mem_cons_of_mem _ member)

end Catalogued

/-! ### The slots of a column name -/

theorem isColumn_iff {x : Slot} {name : String} :
    x.isColumn name = true ↔ ∃ c ∈ x.column, Text.alike c.name name = true := by
  unfold Slot.isColumn
  cases x.column <;> simp

theorem ColumnsApart.not_both {x y : Slot} (apart : ColumnsApart x y) (same : x.parent = y.parent)
    {name : String} (left : x.isColumn name = true) : y.isColumn name = false := by
  apply Bool.eq_false_iff.2
  intro right
  obtain ⟨c, bound, spelled⟩ := isColumn_iff.1 left
  obtain ⟨d, bound', spelled'⟩ := isColumn_iff.1 right
  have both := Text.alike_trans spelled (Text.alike_symm spelled')
  rw [apart same c bound d bound'] at both
  cases both

/-- What at most one item of a list fulfils is fulfilled by the first that does. -/
theorem filter_eq_toList_find? {α : Type} {p : α → Bool} {l : List α}
    (once : l.Pairwise fun x y => p x = true → p y = false) :
    l.filter p = (l.find? p).toList := by
  induction l with
  | nil => rfl
  | cons x l ih =>
    obtain ⟨first, others⟩ := List.pairwise_cons.1 once
    cases holds : p x with
    | false => rw [List.filter_cons_of_neg (by simp [holds]), ih others,
        List.find?_cons_of_neg (by simp [holds])]
    | true =>
      have none_else : l.filter p = [] := by
        rw [List.filter_eq_nil_iff]
        intro y member
        simp [first y member holds]
      rw [List.filter_cons_of_pos holds, none_else, List.find?_cons_of_pos holds]
      rfl

/-- Names of tuples are apart, and each is that of one tuple. -/
theorem Sound.nodup_names (sound : s.Sound) : (s.tuples.filterMap Tuple.reference?).Nodup := by
  refine List.Pairwise.filterMap _ ?_ sound.names_apart
  rintro t u apart name named _ named' rfl
  have contrary := apart name named name named'
  rw [Text.alike_refl] at contrary
  cases contrary

/-- Under the name of a tuple, a column is what the slots of the tuple say. -/
theorem Sound.resolveColumn_named (sound : s.Sound) {reference : String}
    (registered : reference ∈ s.tuples.filterMap Tuple.reference?) (column : String) :
    s.resolveColumn (some reference) column =
      (s.findSlot? reference column).elim (.error (.unknownColumn (some reference) column))
        fun slot => .ok (.slot slot.ref) := by
  obtain ⟨t, member, named⟩ := List.mem_filterMap.1 registered
  have found := sound.findTuple?_eq_some member named (Text.alike_refl reference)
  simp only [resolveColumn, found, Option.isNone_some, Bool.false_eq_true, if_false]
  cases s.findSlot? reference column <;> rfl

section Reading

variable (kept : s.Catalogued) (sound : s.Sound)
include kept sound

/-- A tuple has a slot for the column if the column is found under the name of the tuple, and then
that one only. -/
theorem Catalogued.filter_isColumn {t : Tuple} (member : t ∈ s.tuples) (column : String) :
    (s.tupleSlots t.id).filter (·.isColumn column) =
      (t.reference?.bind (s.findSlot? · column)).toList := by
  cases named : t.reference? with
  | none =>
    simp only [Option.bind_none, Option.toList_none, List.filter_eq_nil_iff,
      sound.tupleSlots_eq_filter, List.mem_filter, decide_eq_true_eq]
    rintro x ⟨present, parent⟩ reads
    obtain ⟨c, bound, -⟩ := isColumn_iff.1 reads
    obtain ⟨u, inside, owner, name⟩ := kept.named x present (Option.isSome_of_mem bound)
    obtain rfl := sound.eq_of_tuple_id_eq inside member (owner.trans parent)
    rw [named] at name
    cases name
  | some reference =>
    have once : (s.tupleSlots t.id).Pairwise fun x y =>
        x.isColumn column = true → y.isColumn column = false := by
      rw [sound.tupleSlots_eq_filter]
      refine (kept.apart.sublist List.filter_sublist).imp_of_mem ?_
      intro x y left right apart
      have owner := of_decide_eq_true (List.mem_filter.1 left).2
      have owner' := of_decide_eq_true (List.mem_filter.1 right).2
      exact apart.not_both (owner.trans owner'.symm)
    have found := sound.findTuple?_eq_some member named (Text.alike_refl reference)
    simp only [Option.bind_some, findSlot?, found]
    exact filter_eq_toList_find? once

/-- The slots of a column name, over all tuples, are those found under the names of the tuples. -/
theorem Catalogued.columnSlots_eq (column : String) :
    s.columnSlots column =
      (s.tuples.filterMap Tuple.reference?).filterMap (s.findSlot? · column) := by
  have each : ∀ t ∈ s.tuples, (s.tupleSlots t.id).filter (·.isColumn column) =
      (t.reference?.bind (s.findSlot? · column)).toList :=
    fun t member => kept.filter_isColumn sound member column
  unfold columnSlots
  rw [List.filter_flatMap, List.flatMap_congr each, List.filterMap_filterMap,
    List.filterMap_eq_flatMap_toList]

/-- Each name under which the column is found gives one of these slots, in their order. -/
theorem Catalogued.columnSlots_readers (column : String) :
    List.Forall₂
      (fun reference slot => s.resolveColumn (some reference) column = .ok (.slot slot.ref))
      (s.readers column) (s.columnSlots column) := by
  rw [kept.columnSlots_eq sound]
  have named : ∀ reference ∈ s.tuples.filterMap Tuple.reference?, _ :=
    fun _ registered => sound.resolveColumn_named registered column
  unfold readers
  generalize s.tuples.filterMap Tuple.reference? = names at named
  induction names with
  | nil => exact .nil
  | cons reference names ih =>
    have here := named reference List.mem_cons_self
    have rest := ih fun other member => named other (List.mem_cons_of_mem _ member)
    simp only [List.filter_cons, List.filterMap_cons, here]
    cases found : s.findSlot? reference column with
    | none => exact rest
    | some slot =>
      rw [found] at here
      exact .cons here rest

end Reading

theorem mem_readers {reference column : String} :
    reference ∈ s.readers column ↔ (∃ t ∈ s.tuples, t.reference? = some reference) ∧
      ∃ e, s.resolveColumn (some reference) column = .ok e := by
  unfold readers
  rw [List.mem_filter, List.mem_filterMap]
  cases s.resolveColumn (some reference) column <;> simp [Except.isOk, Except.toBool]

/-- After any run of calls that binds columns only by registering declared tables, a column name
without a qualifier stands for what it does under the name of a registered table, if there is just
one such name; it is unknown if there is none, and ambiguous if there are more. -/
theorem unqualified_eq_qualified {number : UInt32} {requests : List Request}
    (orderly : ∀ request ∈ requests, request.Orderly) (column : String) :
    let s := run { number } requests
    (∀ reference, reference ∈ s.readers column ↔
        (∃ t ∈ s.tuples, t.reference? = some reference) ∧
          ∃ e, s.resolveColumn (some reference) column = .ok e) ∧
      (s.readers column).Nodup ∧
      (s.readers column = [] → s.resolveColumn none column = .error (.unknownColumn none column)) ∧
      (∀ reference, s.readers column = [reference] → ∃ e,
        s.resolveColumn (some reference) column = .ok e ∧ s.resolveColumn none column = .ok e) ∧
      (2 ≤ (s.readers column).length →
        s.resolveColumn none column = .error (.ambiguousColumn column)) := by
  intro s
  have sound : s.Sound := (sound_empty number).run requests
  have kept : s.Catalogued := (catalogued_empty number).run (sound_empty number) orderly
  refine ⟨fun _ => mem_readers, sound.nodup_names.filter _, ?_⟩
  have slots := kept.columnSlots_readers sound column
  refine ⟨?_, ?_, ?_⟩
  · intro nowhere
    rw [nowhere, List.forall₂_nil_left_iff] at slots
    rw [resolveColumn, slots]
  · intro reference only
    rw [only, List.forall₂_cons_left_iff] at slots
    obtain ⟨slot, rest, here, none_left, listed⟩ := slots
    rw [List.forall₂_nil_left_iff.1 none_left] at listed
    exact ⟨.slot slot.ref, here, by rw [resolveColumn, listed]⟩
  · intro several
    rw [slots.length_eq] at several
    unfold resolveColumn
    generalize s.columnSlots column = found at several
    cases found with
    | nil => simp at several
    | cons x rest =>
      cases rest with
      | nil => simp at several
      | cons y others => rfl

/-- A column of both tables, one of the second only, and one of no table. A tuple without a name and
an unbound slot of a table have no part in this. -/
theorem shared_column_ambiguous :
    let users : Table := ⟨"users", [⟨"id", .int, 0⟩, ⟨"name", .string, 1⟩]⟩
    let orders : Table := ⟨"orders", [⟨"ID", .bigInt, 0⟩, ⟨"amount", .double, 1⟩]⟩
    let requests : List Request :=
      [.register users (some "u"), .createTuple, .register orders none, .addSlot ⟨1, 0⟩,
        .addSlot ⟨1, 1⟩, .set ⟨1, 4⟩ (.label "amount"), .register users (some "U")]
    let s := run { number := 1 } requests
    s.resolveColumn none "id" = .error (.ambiguousColumn "id") ∧
      (∃ e, s.resolveColumn (some "orders") "Amount" = .ok e ∧
        s.resolveColumn none "Amount" = .ok e) ∧
      s.resolveColumn none "missing" = .error (.unknownColumn none "missing") := by
  intro users orders requests s
  have users_declared : ∃ name columns, Table.declare name columns = .ok users :=
    ⟨"users", [("id", .int), ("name", .string)], rfl⟩
  have orders_declared : ∃ name columns, Table.declare name columns = .ok orders :=
    ⟨"orders", [("ID", .bigInt), ("amount", .double)], rfl⟩
  have orderly : ∀ request ∈ requests, request.Orderly := by
    simp [requests, Request.Orderly, users_declared, orders_declared]
  obtain ⟨-, -, -, -, ambiguous⟩ := @unqualified_eq_qualified 1 requests orderly "id"
  obtain ⟨-, -, -, unique, -⟩ := @unqualified_eq_qualified 1 requests orderly "Amount"
  obtain ⟨-, -, unknown, -, -⟩ := @unqualified_eq_qualified 1 requests orderly "missing"
  exact ⟨ambiguous (by decide +kernel), unique "orders" (by decide +kernel),
    unknown (by decide +kernel)⟩

end Scope
end ScalarSql

import ScalarSql.Proofs.Scope.Consistent
import ScalarSql.Proofs.Tree.Equality

/-!
What calls on a scope add to it and what they leave as it was. Registering a table opens one tuple
and gives it a slot for each column, or for the first columns if slot ids run out
(`registration_cases`); no call changes what a tuple was made from, or the id and the tuple of a
slot (`Extends`).
-/
namespace ScalarSql

/-- The tuple as it was made, without the slots that it has been given. -/
def Tuple.emptied (t : Tuple) : Tuple := { t with slots := [] }

/-- The slot of a registered column, whatever it is labelled. -/
structure Slot.Reads (x : Slot) (tuple : TupleId) (c : Column) : Prop where
  parent : x.parent = tuple
  ty : x.ty = c.ty
  column : x.column = some c

/-- The slot without its label. -/
def Slot.unlabeled (x : Slot) : Slot := { x with label := none }

theorem Slot.unlabeled_eq_iff {x y : Slot} :
    y.unlabeled = x.unlabeled ↔
      y.id = x.id ∧ y.parent = x.parent ∧ y.ty = x.ty ∧ y.column = x.column := by
  cases x
  cases y
  simp [unlabeled]

/-- Labels do not matter for what a slot reads. -/
theorem Slot.Reads.of_unlabeled {x y : Slot} {tuple : TupleId} {c : Column}
    (same : y.unlabeled = x.unlabeled) (reads : x.Reads tuple c) : y.Reads tuple c := by
  obtain ⟨-, parent, ty, column⟩ := Slot.unlabeled_eq_iff.1 same
  exact ⟨parent.trans reads.parent, ty.trans reads.ty, column.trans reads.column⟩

theorem Slot.Reads.isColumn_eq {x : Slot} {tuple : TupleId} {c : Column} (reads : x.Reads tuple c)
    (name : String) : x.isColumn name = Text.alike c.name name := by
  rw [Slot.isColumn, reads.column]
  rfl

/-- What stands in a list stands in the same place of a longer one. -/
theorem getElem?_of_isPrefix {α : Type} {short long : List α} (starts : short <+: long) {i : Nat}
    {a : α} (found : short[i]? = some a) : long[i]? = some a := by
  obtain ⟨bound, here⟩ := List.getElem?_eq_some_iff.1 found
  rw [List.prefix_iff_getElem?.1 starts i bound, here]

namespace Scope

theorem map_id_emptied (ts : List Tuple) : (ts.map Tuple.emptied).map (·.id) = ts.map (·.id) := by
  rw [List.map_map]
  rfl

/-- Tuples stay in their places with their ids, tables and aliases, and slots with their ids and
tuples. -/
structure Extends (later s : Scope) : Prop where
  number : later.number = s.number
  tuples : s.tuples.map Tuple.emptied <+: later.tuples.map Tuple.emptied
  slots : s.slots.map (fun x => (x.id, x.parent)) <+: later.slots.map fun x => (x.id, x.parent)

namespace Extends

variable {s t u : Scope}

theorem refl (s : Scope) : s.Extends s :=
  ⟨rfl, List.prefix_refl _, List.prefix_refl _⟩

theorem trans (later : u.Extends t) (earlier : t.Extends s) : u.Extends s :=
  ⟨later.number.trans earlier.number, earlier.tuples.trans later.tuples,
    earlier.slots.trans later.slots⟩

/-- A tuple of a scope is in its extensions, with its id and name. -/
theorem exists_tuple (later : t.Extends s) {x : Tuple} (member : x ∈ s.tuples) :
    ∃ y ∈ t.tuples, y.id = x.id ∧ y.reference? = x.reference? := by
  have kept := later.tuples.subset (List.mem_map_of_mem (f := Tuple.emptied) member)
  obtain ⟨y, present, same⟩ := List.mem_map.1 kept
  refine ⟨y, present, ?_, ?_⟩
  · show y.emptied.id = x.emptied.id
    rw [same]
  · show y.emptied.reference? = x.emptied.reference?
    rw [same]

theorem exists_slot (later : t.Extends s) {x : Slot} (member : x ∈ s.slots) :
    ∃ y ∈ t.slots, y.id = x.id ∧ y.parent = x.parent := by
  have kept := later.slots.subset (List.mem_map_of_mem (f := fun x => (x.id, x.parent)) member)
  obtain ⟨y, present, same⟩ := List.mem_map.1 kept
  exact ⟨y, present, congrArg Prod.fst same, congrArg Prod.snd same⟩

theorem of_append {tuples : List Tuple} {slots : List Slot} (number : t.number = s.number)
    (opened : t.tuples.map Tuple.emptied = s.tuples.map Tuple.emptied ++ tuples)
    (added : t.slots = s.slots ++ slots) : t.Extends s := by
  refine ⟨number, ?_, ?_⟩
  · rw [opened]
    exact List.prefix_append _ _
  · rw [added, List.map_append]
    exact List.prefix_append _ _

/-- The ids of an extension are those that were there and, behind them, those made since. -/
theorem ids (later : t.Extends s) :
    t.tuples.map (·.id) = s.tuples.map (·.id) ++ (t.idsSince s).tuples ∧
      t.slots.map (·.id) = s.slots.map (·.id) ++ (t.idsSince s).slots := by
  have tuples : s.tuples.map (·.id) <+: t.tuples.map (·.id) := by
    have kept := later.tuples.map fun t => t.id
    rwa [map_id_emptied, map_id_emptied] at kept
  have slots : s.slots.map (·.id) <+: t.slots.map (·.id) := by
    have kept := later.slots.map Prod.fst
    rwa [List.map_map, List.map_map] at kept
  rw [List.prefix_iff_eq_append, List.length_map, ← List.map_drop] at tuples slots
  exact ⟨tuples.symm, slots.symm⟩

end Extends

variable {s grown : Scope} {table : Table} {aliasName : Option String} {tuple id : TupleId}
  {columns : List Column}

theorem map_emptied_modify (ts : List Tuple) (i : Nat) (slots : List SlotId) :
    (ts.modify i fun t => { t with slots := t.slots ++ slots }).map Tuple.emptied =
      ts.map Tuple.emptied := by
  apply List.ext_getElem?
  intro j
  rw [List.getElem?_map, List.getElem?_map, List.getElem?_modify]
  cases ts[j]? with
  | none => rfl
  | some t =>
    by_cases here : i = j
    · simp [here, Tuple.emptied]
    · simp [here]

/-! ### Registrations -/

theorem addColumns_cons_complete {reference : String} {column : Column} {rest : List Column} :
    s.addColumns tuple reference (column :: rest) = (none, grown) ↔
      ∃ id next, s.newSlot tuple (fun slot => (slot.bind column).setLabel
          (reference ++ "." ++ column.name)) = .ok (id, next) ∧
        next.addColumns tuple reference rest = (none, grown) := by
  rw [addColumns]
  split
  next id next first => simp [first]
  next e refused => simp [refused]

/-- Adding columns to a tuple of the scope makes a slot for each of them or, if ids run out, for the
first of them. -/
theorem addColumns_cases (reference : String) (columns : List Column)
    (registered : (s.tuple? tuple).isSome) :
    ∃ made grown, made <+: columns ∧ s.addColumns tuple reference made = (none, grown) ∧
      (made = columns ∨ idLimit ≤ grown.slots.length ∧
        s.addColumns tuple reference columns =
          (some (.tooManySlots grown.slots.length), grown)) := by
  induction columns generalizing s with
  | nil => exact ⟨[], s, List.prefix_refl _, rfl, Or.inl rfl⟩
  | cons column rest ih =>
    obtain ⟨id, next, first, registered'⟩ | ⟨full, first⟩ :=
      newSlot_cases registered fun slot =>
        (slot.bind column).setLabel (reference ++ "." ++ column.name)
    · obtain ⟨made, grown, starts, complete, outcome⟩ := ih registered'
      refine ⟨column :: made, grown, List.cons_prefix_cons.2 ⟨rfl, starts⟩, ?_, ?_⟩
      · simp only [addColumns, first, complete]
      · refine outcome.imp (fun all => by rw [all]) ?_
        rintro ⟨full, cut⟩
        exact ⟨full, by simp only [addColumns, first, cut]⟩
    · refine ⟨[], s, List.nil_prefix, rfl, Or.inr ⟨full, ?_⟩⟩
      simp only [addColumns, first]

/-- Columns become slots behind all others, and no tuple is opened. -/
theorem addColumns_effect {reference : String}
    (complete : s.addColumns tuple reference columns = (none, grown)) :
    grown.number = s.number ∧ grown.tuples.map Tuple.emptied = s.tuples.map Tuple.emptied ∧
      ∃ added, grown.slots = s.slots ++ added ∧
        List.Forall₂ (fun c x => x.Reads tuple c) columns added := by
  induction columns generalizing s with
  | nil =>
    cases complete
    exact ⟨rfl, rfl, [], by simp, .nil⟩
  | cons column rest ih =>
    obtain ⟨id, next, first, others⟩ := addColumns_cons_complete.1 complete
    obtain ⟨number, tuples, added, slots, holds⟩ := ih others
    obtain ⟨-, -, -, rfl⟩ := newSlot_ok_iff.1 first
    refine ⟨number, tuples.trans (map_emptied_modify _ _ _), ?_⟩
    refine ⟨_, slots.trans (List.append_assoc _ _ _), .cons ?_ holds⟩
    exact ⟨rfl, rfl, rfl⟩

theorem Sound.addColumns {reference : String} (sound : s.Sound)
    (complete : s.addColumns tuple reference columns = (none, grown)) : grown.Sound := by
  induction columns generalizing s with
  | nil =>
    cases complete
    exact sound
  | cons column rest ih =>
    obtain ⟨id, next, first, others⟩ := addColumns_cons_complete.1 complete
    refine ih (sound.newSlot ?_ ?_ first) others
    · intro x
      rfl
    · intro x
      rfl

/-- A tuple for the table has been opened, under a new name, and has got slots for the columns. -/
def Opens (s grown : Scope) (table : Table) (aliasName : Option String)
    (columns : List Column) : Prop :=
  s.findTuple? (aliasName.getD table.name) = none ∧ ∃ opened,
    s.newTuple (some table) aliasName = .ok (s.nextTuple, opened) ∧
    opened.addColumns s.nextTuple (aliasName.getD table.name) columns = (none, grown)

theorem registration_ok_iff :
    s.registration table aliasName = (.ok id, grown) ↔
      id = s.nextTuple ∧ s.Opens grown table aliasName table.columns := by
  unfold registration Opens
  dsimp only
  cases s.findTuple? (aliasName.getD table.name) with
  | some t => simp
  | none =>
    simp only [Option.isSome_none, Bool.false_eq_true, if_false, true_and]
    cases first : s.newTuple (some table) aliasName with
    | error e => simp
    | ok result =>
      obtain ⟨_, opened⟩ := result
      obtain ⟨-, rfl, -⟩ := newTuple_ok_iff.1 first
      rcases others : opened.addColumns s.nextTuple (aliasName.getD table.name) table.columns
        with ⟨_ | e, left⟩
      · simp [others, eq_comm]
      · simp [others]

/-- A registration that succeeds opens a tuple with all columns of the table. -/
theorem register_ok_iff :
    s.register table aliasName = .ok (id, grown) ↔
      id = s.nextTuple ∧ s.Opens grown table aliasName table.columns := by
  rw [← registration_ok_iff, register]
  split
  next made => simp [made]
  next refused => simp [refused]

/-- Whatever becomes of a registration: it is refused and changes nothing, or it opens a tuple with
all columns of the table, or it is cut short when slot ids have run out, and leaves a tuple with the
first of them. -/
theorem registration_cases (s : Scope) (table : Table) (aliasName : Option String) :
    (∃ e, s.registration table aliasName = (.error e, s)) ∨
      ∃ columns grown, columns <+: table.columns ∧ s.Opens grown table aliasName columns ∧
        (columns = table.columns ∧ s.registration table aliasName = (.ok s.nextTuple, grown) ∨
          idLimit ≤ grown.slots.length ∧ s.registration table aliasName =
            (.error (.tooManySlots grown.slots.length), grown)) := by
  unfold registration
  dsimp only
  split
  next => exact Or.inl ⟨_, rfl⟩
  next unused =>
    cases first : s.newTuple (some table) aliasName with
    | error e => exact Or.inl ⟨e, rfl⟩
    | ok result =>
      obtain ⟨_, opened⟩ := result
      obtain ⟨-, rfl, -⟩ := newTuple_ok_iff.1 first
      obtain ⟨columns, grown, starts, complete, outcome⟩ :=
        addColumns_cases (aliasName.getD table.name) table.columns
          (isSome_tuple?_newTuple first)
      refine Or.inr ⟨columns, grown, starts,
        ⟨Option.not_isSome_iff_eq_none.1 unused, opened, first, complete⟩, ?_⟩
      rcases outcome with all | ⟨full, cut⟩
      · refine Or.inl ⟨all, ?_⟩
        dsimp only
        rw [← all, complete]
      · refine Or.inr ⟨full, ?_⟩
        dsimp only
        rw [cut]

namespace Opens

/-- There is an id for the tuple. -/
theorem fits (opens : s.Opens grown table aliasName columns) : s.tuples.length < idLimit := by
  obtain ⟨-, opened, first, -⟩ := opens
  exact (newTuple_ok_iff.1 first).1

/-- The tuple stands behind all others, and so do its slots. -/
theorem effect (opens : s.Opens grown table aliasName columns) :
    grown.number = s.number ∧
      grown.tuples.map Tuple.emptied =
        s.tuples.map Tuple.emptied ++ [⟨s.nextTuple, some table, aliasName, []⟩] ∧
      ∃ added, grown.slots = s.slots ++ added ∧
        List.Forall₂ (fun c x => x.Reads s.nextTuple c) columns added := by
  obtain ⟨-, opened, first, others⟩ := opens
  obtain ⟨number, tuples, added⟩ := addColumns_effect others
  obtain ⟨-, -, rfl⟩ := newTuple_ok_iff.1 first
  exact ⟨number, tuples.trans List.map_append, added⟩

theorem extends_scope (opens : s.Opens grown table aliasName columns) : grown.Extends s := by
  obtain ⟨number, tuples, added, slots, -⟩ := opens.effect
  exact .of_append number tuples slots

end Opens

theorem reference?_registered (id : TupleId) (table : Table) (aliasName : Option String) :
    (⟨id, some table, aliasName, []⟩ : Tuple).reference? = some (aliasName.getD table.name) := by
  cases aliasName <;> rfl

theorem Sound.opens (sound : s.Sound) (opens : s.Opens grown table aliasName columns) :
    grown.Sound := by
  obtain ⟨unused, opened, first, others⟩ := opens
  refine (sound.newTuple ?_ first).addColumns others
  intro t member a named b registered
  rw [reference?_registered] at registered
  obtain rfl := Option.mem_some_iff.1 registered
  have other := List.find?_eq_none.1 unused t member
  rw [Option.mem_def.1 named] at other
  exact Bool.eq_false_iff.2 other

/-- The slots of the new tuple are those added for the columns, in their order. -/
theorem Sound.opened_slots (sound : s.Sound) (opens : s.Opens grown table aliasName columns) :
    grown.tupleSlots s.nextTuple = grown.madeSince s ∧
      List.Forall₂ (fun c x => x.Reads s.nextTuple c) columns (grown.madeSince s) := by
  obtain ⟨-, -, added, slots, reads⟩ := opens.effect
  have made : grown.madeSince s = added := by
    rw [madeSince, slots, List.drop_left]
  have all : added.filter (·.parent = s.nextTuple) = added := by
    rw [List.filter_eq_self]
    intro x member
    obtain ⟨c, -, read⟩ := exists_mem_of_forall₂ reads member
    exact decide_eq_true read.parent
  rw [made, (sound.opens opens).tupleSlots_eq_filter, slots, List.filter_append,
    sound.filter_parent_next opens.fits, all, List.nil_append]
  exact ⟨rfl, reads⟩

/-- The ids made are that of the tuple and those of its slots. -/
theorem Sound.idsSince_opened (sound : s.Sound) (opens : s.Opens grown table aliasName columns) :
    grown.idsSince s =
      { tuples := [s.nextTuple], slots := (grown.tupleSlots s.nextTuple).map (·.id) } := by
  obtain ⟨-, tuples, -⟩ := opens.effect
  have ids : s.tuples.map (·.id) ++ (grown.idsSince s).tuples =
      s.tuples.map (·.id) ++ [s.nextTuple] := by
    rw [← opens.extends_scope.ids.1, ← map_id_emptied, tuples, List.map_append, map_id_emptied]
    rfl
  rw [← List.append_cancel_left ids, (sound.opened_slots opens).1]
  rfl

theorem Sound.register (sound : s.Sound) (success : s.register table aliasName = .ok (id, grown)) :
    grown.Sound :=
  sound.opens (register_ok_iff.1 success).2

theorem Sound.createTuple (sound : s.Sound) (success : s.createTuple = .ok (id, grown)) :
    grown.Sound :=
  sound.newTuple (fun _ _ _ _ _ nameless => by cases nameless) success

theorem Sound.addSlot {slot : SlotId} (sound : s.Sound)
    (success : s.addSlot tuple = .ok (slot, grown)) : grown.Sound :=
  sound.newSlot (fun _ => rfl) (fun _ => rfl) success

end Scope
end ScalarSql

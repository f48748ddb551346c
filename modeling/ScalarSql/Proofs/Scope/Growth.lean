import ScalarSql.Expr.Basic
import ScalarSql.Scope.Growth

/-!
A growing scope keeps what it has. Each new tuple or slot stands behind all others, under an id that
found nothing before, and every slot that was found stays as it was (`Retains`). Giving a tuple a
slot of a known type is one step of such growth (`addTypedSlot_step`).
-/
namespace ScalarSql

theorem bind_eq_ok_iff {ε α β : Type} {x : Except ε α} {f : α → Except ε β} {b : β} :
    (x >>= f) = .ok b ↔ ∃ a, x = .ok a ∧ f a = .ok b := by
  cases x with
  | error e => simp [bind, Except.bind]
  | ok a => simp [bind, Except.bind]

namespace Scope

/-- Each slot of `s` is found in `grown` as well, unchanged. -/
def Retains (grown s : Scope) : Prop :=
  ∀ id slot, s.slot? id = some slot → grown.slot? id = some slot

theorem Retains.refl (s : Scope) : s.Retains s := fun _ _ found => found

theorem Retains.trans {s t u : Scope} (later : u.Retains t) (earlier : t.Retains s) :
    u.Retains s :=
  fun id slot found => later id slot (earlier id slot found)

/-- An id without a slot had none before either. -/
theorem Retains.slot?_eq_none {s grown : Scope} (kept : grown.Retains s) {id : SlotId}
    (missing : grown.slot? id = none) : s.slot? id = none := by
  cases found : s.slot? id with
  | none => rfl
  | some slot =>
    rw [kept id slot found] at missing
    cases missing

theorem retains_of_append {s grown : Scope} {added : List Slot} (number : grown.number = s.number)
    (slots : grown.slots = s.slots ++ added) : grown.Retains s := by
  intro id slot found
  unfold slot? at found ⊢
  rw [number, slots]
  split at found
  next own =>
    have bound : id.index.toNat < s.slots.length := (List.getElem?_eq_some_iff.1 found).1
    rw [if_pos own, List.getElem?_append_left bound]
    exact found
  next => cases found

/-- The ids that the scope hands out next. -/
def nextTuple (s : Scope) : TupleId := ⟨s.number, UInt32.ofNat s.tuples.length⟩

def nextSlot (s : Scope) : SlotId := ⟨s.number, UInt32.ofNat s.slots.length⟩

theorem toNat_ofNat_of_lt_idLimit {n : Nat} (fits : n < idLimit) : (UInt32.ofNat n).toNat = n :=
  UInt32.toNat_ofNat_of_lt' fits

theorem tuple?_nextTuple {s : Scope} (fits : s.tuples.length < idLimit) :
    s.tuple? s.nextTuple = none := by
  simp only [tuple?, nextTuple, if_true, toNat_ofNat_of_lt_idLimit fits]
  exact List.getElem?_eq_none (Nat.le_refl _)

theorem slot?_nextSlot {s : Scope} (fits : s.slots.length < idLimit) :
    s.slot? s.nextSlot = none := by
  simp only [slot?, nextSlot, if_true, toNat_ofNat_of_lt_idLimit fits]
  exact List.getElem?_eq_none (Nat.le_refl _)

theorem newTuple_ok_iff {s grown : Scope} {table : Option Table} {aliasName : Option String}
    {id : TupleId} :
    s.newTuple table aliasName = .ok (id, grown) ↔ s.tuples.length < idLimit ∧ id = s.nextTuple ∧
      grown = { s with tuples := s.tuples ++ [{ id := s.nextTuple, table, aliasName }] } := by
  unfold newTuple nextTuple
  dsimp only
  split
  next fits =>
    simp only [Except.ok.injEq, Prod.mk.injEq, fits, true_and]
    constructor
    · rintro ⟨rfl, rfl⟩
      exact ⟨rfl, rfl⟩
    · rintro ⟨rfl, rfl⟩
      exact ⟨rfl, rfl⟩
  next full => simp [full]

theorem isSome_tuple?_newTuple {s grown : Scope} {table : Option Table}
    {aliasName : Option String} {id : TupleId}
    (success : s.newTuple table aliasName = .ok (id, grown)) : (grown.tuple? id).isSome := by
  obtain ⟨fits, rfl, rfl⟩ := newTuple_ok_iff.1 success
  simp [tuple?, nextTuple, toNat_ofNat_of_lt_idLimit fits]

theorem createTuple_ok_iff {s grown : Scope} {id : TupleId} :
    s.createTuple = .ok (id, grown) ↔ s.tuples.length < idLimit ∧ id = s.nextTuple ∧
      grown = { s with tuples := s.tuples ++ [{ id := s.nextTuple }] } :=
  newTuple_ok_iff

theorem newSlot_ok_iff {s grown : Scope} {tuple : TupleId} {fill : Slot → Slot} {id : SlotId} :
    s.newSlot tuple fill = .ok (id, grown) ↔
      (s.tuple? tuple).isSome = true ∧ s.slots.length < idLimit ∧ id = s.nextSlot ∧
      grown = { s with
        tuples := s.tuples.modify tuple.index.toNat fun t =>
          { t with slots := t.slots ++ [s.nextSlot] }
        slots := s.slots ++ [fill { id := s.nextSlot, parent := tuple }] } := by
  unfold newSlot nextSlot
  cases registered : s.tuple? tuple with
  | none => simp
  | some t =>
    simp only [Option.isNone_some, Bool.false_eq_true, if_false, Option.isSome_some, true_and]
    split
    next fits =>
      simp only [Except.ok.injEq, Prod.mk.injEq, fits, true_and]
      constructor
      · rintro ⟨rfl, rfl⟩
        exact ⟨rfl, rfl⟩
      · rintro ⟨rfl, rfl⟩
        exact ⟨rfl, rfl⟩
    next full => simp [full]

/-- A tuple of the scope gets a slot as long as there are ids. -/
theorem newSlot_eq {s : Scope} {tuple : TupleId} (registered : (s.tuple? tuple).isSome)
    (fill : Slot → Slot) :
    s.newSlot tuple fill =
      if s.slots.length < idLimit then
        .ok (s.nextSlot, { s with
          tuples := s.tuples.modify tuple.index.toNat fun t =>
            { t with slots := t.slots ++ [s.nextSlot] }
          slots := s.slots ++ [fill { id := s.nextSlot, parent := tuple }] })
      else .error (.tooManySlots s.slots.length) := by
  have known : ¬ (s.tuple? tuple).isNone = true := by
    rw [← Option.not_isSome, registered]
    decide
  unfold newSlot
  rw [if_neg known]
  rfl

/-- A tuple stays in its scope when tuples there are given slots. -/
theorem isSome_tuple?_modify {s : Scope} {tuple : TupleId} (registered : (s.tuple? tuple).isSome)
    (i : Nat) (f : Tuple → Tuple) (slots : List Slot) :
    (({ s with tuples := s.tuples.modify i f, slots } : Scope).tuple? tuple).isSome := by
  unfold tuple? at registered ⊢
  split at registered
  next own =>
    rw [if_pos own, List.getElem?_modify]
    simpa using registered
  next => cases registered

/-- A tuple of the scope stays there when it gets a slot, and is refused one only when ids have run
out. -/
theorem newSlot_cases {s : Scope} {tuple : TupleId} (registered : (s.tuple? tuple).isSome)
    (fill : Slot → Slot) :
    (∃ id grown, s.newSlot tuple fill = .ok (id, grown) ∧ (grown.tuple? tuple).isSome) ∨
      idLimit ≤ s.slots.length ∧
        s.newSlot tuple fill = .error (.tooManySlots s.slots.length) := by
  rw [newSlot_eq registered]
  split
  next => exact Or.inl ⟨_, _, rfl, isSome_tuple?_modify registered _ _ _⟩
  next full => exact Or.inr ⟨Nat.le_of_not_lt full, rfl⟩

/-- A slot for a value computed by the query, of the type of that value. -/
def addTypedSlot (s : Scope) (tuple : TupleId) (ty : DataType) :
    Except ScopeError (SlotId × Scope) := do
  let (id, grown) ← s.addSlot tuple
  return (id, grown.updateSlot id (·.setType ty))

theorem modify_length_append {α : Type} (l : List α) (x : α) (f : α → α) :
    (l ++ [x]).modify l.length f = l ++ [f x] := by
  simp [List.modify_eq_take_drop]

/-- The slot stands behind all others, and the tuples keep their places. -/
theorem addTypedSlot_eq {s : Scope} {tuple : TupleId} (registered : (s.tuple? tuple).isSome)
    (ty : DataType) :
    s.addTypedSlot tuple ty =
      if s.slots.length < idLimit then
        .ok (s.nextSlot, { s with
          tuples := s.tuples.modify tuple.index.toNat fun t =>
            { t with slots := t.slots ++ [s.nextSlot] }
          slots := s.slots ++ [{ id := s.nextSlot, parent := tuple, ty }] })
      else .error (.tooManySlots s.slots.length) := by
  unfold addTypedSlot addSlot
  rw [newSlot_eq registered]
  split
  next fits =>
    have place := toNat_ofNat_of_lt_idLimit fits
    simp only [bind, Except.bind, pure, Except.pure, updateSlot, nextSlot, if_true, place,
      modify_length_append]
    rfl
  next => rfl

/-- A reference to a slot of the tuple that is in `grown`, with the type, and was not in `s`. -/
structure Fresh (s grown : Scope) (tuple : TupleId) (ty : DataType) (ref : SlotRef) : Prop where
  owner : ref.tuple = tuple
  new : s.slot? ref.slot = none
  typed : ∃ slot, grown.slot? ref.slot = some slot ∧ slot.parent = tuple ∧ slot.ty = ty

/-- What was fresh in a step of a growing scope is fresh in the whole growth. -/
theorem Fresh.of_step {s t u v : Scope} {tuple : TupleId} {ty : DataType} {ref : SlotRef}
    (fresh : t.Fresh u tuple ty ref) (earlier : t.Retains s) (later : v.Retains u) :
    s.Fresh v tuple ty ref := by
  obtain ⟨slot, found, parent, type⟩ := fresh.typed
  exact ⟨fresh.owner, earlier.slot?_eq_none fresh.new, slot, later _ slot found, parent, type⟩

theorem addTypedSlot_isOk_iff {s : Scope} {tuple : TupleId}
    (registered : (s.tuple? tuple).isSome) (ty : DataType) :
    (∃ added, s.addTypedSlot tuple ty = .ok added) ↔ s.slots.length < idLimit := by
  rw [addTypedSlot_eq registered]
  by_cases fits : s.slots.length < idLimit
  · simp [fits]
  · simp [fits]

theorem addTypedSlot_step {s grown : Scope} {tuple : TupleId} {ty : DataType} {id : SlotId}
    (registered : (s.tuple? tuple).isSome) (success : s.addTypedSlot tuple ty = .ok (id, grown)) :
    grown.Retains s ∧ (grown.tuple? tuple).isSome ∧
      grown.slots.length = s.slots.length + 1 ∧ s.Fresh grown tuple ty ⟨tuple, id, none⟩ := by
  rw [addTypedSlot_eq registered] at success
  split at success
  next fits =>
    simp only [Except.ok.injEq, Prod.mk.injEq] at success
    obtain ⟨rfl, rfl⟩ := success
    refine ⟨retains_of_append rfl rfl, isSome_tuple?_modify registered _ _ _, by simp, rfl,
      slot?_nextSlot fits, { id := s.nextSlot, parent := tuple, ty }, ?_, rfl, rfl⟩
    simp only [slot?, nextSlot, if_true, toNat_ofNat_of_lt_idLimit fits]
    exact List.getElem?_concat_length
  next => cases success

end Scope
end ScalarSql

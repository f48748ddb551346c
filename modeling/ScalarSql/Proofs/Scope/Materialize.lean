import ScalarSql.Expr.Build
import ScalarSql.Proofs.Scope.Growth
import ScalarSql.Proofs.Tree.Rewriting

/-!
Materializing a list of expressions in a scope. A new tuple gets one slot for each expression, of
the type of the expression, and a map puts a reference to the slot in its place. This works exactly
if there are ids left for all (`materialize_isOk_iff`), and then every slot is new
(`materialize_stored`).
-/
namespace ScalarSql

/-- A slot of the tuple for each expression, of its type, and a reference to put in its place. -/
def Scope.slotsFor (tuple : TupleId) : List Expr → Scope → Substitution →
    Except ScopeError (Scope × Substitution)
  | [], s, m => .ok (s, m)
  | e :: es, s, m => do
    let (id, grown) ← s.addTypedSlot tuple e.ty
    slotsFor tuple es grown (m.put e (.slot ⟨tuple, id, none⟩))

/-- A tuple for the values of the expressions, and the map that puts its slots in their place. -/
def Scope.materialize (s : Scope) (es : List Expr) :
    Except ScopeError (TupleId × Scope × Substitution) := do
  let (tuple, grown) ← s.createTuple
  let (grown, m) ← slotsFor tuple es grown {}
  return (tuple, grown, m)

namespace Scope

/-- `put` is a pattern with a reference to a slot of its type that `grown` has and `s` has not. -/
def Stored (s grown : Scope) (tuple : TupleId) (e : Expr) (put : Expr × Expr) : Prop :=
  put.1 = e ∧ ∃ ref, put.2 = .slot ref ∧ s.Fresh grown tuple e.ty ref

theorem slotsFor_cons {tuple : TupleId} {e : Expr} {es : List Expr} {s : Scope} {m : Substitution}
    {made : Scope × Substitution} :
    slotsFor tuple (e :: es) s m = .ok made ↔
      ∃ id grown, s.addTypedSlot tuple e.ty = .ok (id, grown) ∧
        slotsFor tuple es grown (m.put e (.slot ⟨tuple, id, none⟩)) = .ok made := by
  rw [slotsFor, bind_eq_ok_iff]
  exact Prod.exists

/-- There are slots for all if there are ids for all. -/
theorem slotsFor_isOk_iff {tuple : TupleId} {es : List Expr} {s : Scope} {m : Substitution}
    (registered : (s.tuple? tuple).isSome) :
    (∃ made, slotsFor tuple es s m = .ok made) ↔
      (es ≠ [] → s.slots.length + es.length ≤ idLimit) := by
  induction es generalizing s m with
  | nil => simp [slotsFor]
  | cons e es ih =>
    have enough : (e :: es ≠ [] → s.slots.length + (e :: es).length ≤ idLimit) ↔
        s.slots.length < idLimit ∧ (es ≠ [] → s.slots.length + 1 + es.length ≤ idLimit) := by
      constructor
      · intro bound
        have all := bound (List.cons_ne_nil e es)
        simp only [List.length_cons] at all
        exact ⟨by omega, fun _ => by omega⟩
      · rintro ⟨first, rest⟩ -
        by_cases last : es = []
        · subst last
          simp only [List.length_cons, List.length_nil]
          omega
        · have others := rest last
          simp only [List.length_cons]
          omega
    rw [enough, ← addTypedSlot_isOk_iff registered e.ty]
    simp only [slotsFor_cons]
    constructor
    · rintro ⟨made, id, grown, added, others⟩
      obtain ⟨-, registered', length, -⟩ := addTypedSlot_step registered added
      have rest := (ih registered').1 ⟨made, others⟩
      rw [length] at rest
      exact ⟨⟨_, added⟩, rest⟩
    · rintro ⟨⟨⟨id, grown⟩, added⟩, rest⟩
      obtain ⟨-, registered', length, -⟩ := addTypedSlot_step registered added
      rw [← length] at rest
      obtain ⟨made, others⟩ := (ih registered').2 rest
      exact ⟨made, id, grown, added, others⟩

/-- Each slot is new when it is added and stays while the others are added. -/
theorem slotsFor_stored {tuple : TupleId} {es : List Expr} {s grown : Scope} {m m' : Substitution}
    (registered : (s.tuple? tuple).isSome) (success : slotsFor tuple es s m = .ok (grown, m')) :
    grown.Retains s ∧ ∃ added, m'.pairs = m.pairs ++ added ∧
      List.Forall₂ (s.Stored grown tuple) es added := by
  induction es generalizing s m with
  | nil =>
    simp only [slotsFor, Except.ok.injEq, Prod.mk.injEq] at success
    obtain ⟨rfl, rfl⟩ := success
    exact ⟨Retains.refl s, [], by simp, .nil⟩
  | cons e es ih =>
    obtain ⟨id, next, added, others⟩ := slotsFor_cons.1 success
    obtain ⟨kept, registered', -, fresh⟩ := addTypedSlot_step registered added
    obtain ⟨kept', pairs, appended, stored⟩ := ih registered' others
    refine ⟨kept'.trans kept, (e, .slot ⟨tuple, id, none⟩) :: pairs, ?_, ?_⟩
    · rw [appended, Substitution.put, List.append_assoc]
      rfl
    · refine .cons ⟨rfl, _, rfl, fresh.of_step (Retains.refl s) kept'⟩ (stored.imp ?_)
      rintro e' put ⟨pattern, ref, reference, new⟩
      exact ⟨pattern, ref, reference, new.of_step kept (Retains.refl grown)⟩

theorem createTuple_step {s grown : Scope} {tuple : TupleId}
    (success : s.createTuple = .ok (tuple, grown)) :
    s.tuple? tuple = none ∧ (grown.tuple? tuple).isSome ∧ grown.Retains s ∧
      grown.slots.length = s.slots.length := by
  obtain ⟨fits, rfl, rfl⟩ := createTuple_ok_iff.1 success
  exact ⟨tuple?_nextTuple fits, isSome_tuple?_newTuple success, fun _ _ found => found, rfl⟩

theorem materialize_ok_iff {s grown : Scope} {es : List Expr} {tuple : TupleId}
    {m : Substitution} :
    s.materialize es = .ok (tuple, grown, m) ↔
      ∃ next, s.createTuple = .ok (tuple, next) ∧ slotsFor tuple es next {} = .ok (grown, m) := by
  unfold materialize
  simp only [bind_eq_ok_iff, Prod.exists, pure, Except.pure, Except.ok.injEq, Prod.mk.injEq]
  constructor
  · rintro ⟨_, next, created, _, _, filled, rfl, rfl, rfl⟩
    exact ⟨next, created, filled⟩
  · rintro ⟨next, created, filled⟩
    exact ⟨_, next, created, _, _, filled, rfl, rfl, rfl⟩

theorem materialize_isOk_iff {s : Scope} {es : List Expr} :
    (∃ made, s.materialize es = .ok made) ↔
      s.tuples.length < idLimit ∧ (es ≠ [] → s.slots.length + es.length ≤ idLimit) := by
  constructor
  · rintro ⟨⟨tuple, grown, m⟩, success⟩
    obtain ⟨next, created, filled⟩ := materialize_ok_iff.1 success
    obtain ⟨-, registered, -, length⟩ := createTuple_step created
    rw [← length]
    exact ⟨(createTuple_ok_iff.1 created).1, (slotsFor_isOk_iff registered).1 ⟨_, filled⟩⟩
  · rintro ⟨fits, enough⟩
    have created := createTuple_ok_iff.2 ⟨fits, rfl, rfl⟩
    obtain ⟨-, registered, -, length⟩ := createTuple_step created
    rw [← length] at enough
    obtain ⟨⟨grown, m⟩, filled⟩ := (slotsFor_isOk_iff registered).2 enough
    exact ⟨_, materialize_ok_iff.2 ⟨_, created, filled⟩⟩

/-- The tuple is new, no slot of the old scope is lost, and each expression has its slot. -/
theorem materialize_stored {s grown : Scope} {es : List Expr} {tuple : TupleId} {m : Substitution}
    (success : s.materialize es = .ok (tuple, grown, m)) :
    s.tuple? tuple = none ∧ grown.Retains s ∧ List.Forall₂ (s.Stored grown tuple) es m.pairs := by
  obtain ⟨next, created, filled⟩ := materialize_ok_iff.1 success
  obtain ⟨unknown, registered, kept, -⟩ := createTuple_step created
  obtain ⟨kept', pairs, appended, stored⟩ := slotsFor_stored registered filled
  rw [List.nil_append] at appended
  subst appended
  refine ⟨unknown, kept'.trans kept, stored.imp ?_⟩
  rintro e put ⟨pattern, ref, reference, new⟩
  exact ⟨pattern, ref, reference, new.of_step kept (Retains.refl grown)⟩

/-- Only leaves are put in the place of expressions. -/
theorem leaves_of_stored {s grown : Scope} {es : List Expr} {tuple : TupleId} {m : Substitution}
    (stored : List.Forall₂ (s.Stored grown tuple) es m.pairs) : Expr.Leaves m.get? := by
  intro e r found
  obtain ⟨put, member, -, rfl⟩ := Substitution.exists_pair_of_get? found
  obtain ⟨_, -, -, ref, reference, -⟩ := exists_mem_of_forall₂ stored member
  rw [reference]
  rfl

end Scope
end ScalarSql

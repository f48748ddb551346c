import ScalarSql.Proofs.Scope.Growth
import ScalarSql.Scope.Pool

/-!
Runs of calls, on one scope and on all scopes of a session at once. A call that is refused hands out
nothing and changes nothing, except that a registration for which slot ids run out leaves its tuple
and the slots made so far. Their ids count as handed out.
-/
namespace ScalarSql

/-- What a caller can set on a slot. -/
inductive Setting where
  | type (ty : DataType)
  | column (bound : Column)
  | label (text : String)
  deriving DecidableEq

namespace Setting

def apply : Setting → Slot → Slot
  | type ty, slot => slot.setType ty
  | column bound, slot => slot.bind bound
  | label text, slot => slot.setLabel text

@[simp] theorem apply_id (setting : Setting) (slot : Slot) : (setting.apply slot).id = slot.id := by
  cases setting <;> rfl

@[simp] theorem apply_parent (setting : Setting) (slot : Slot) :
    (setting.apply slot).parent = slot.parent := by
  cases setting <;> rfl

end Setting

/-- Ids that calls hand out, in the order in which they do. -/
structure Handed where
  tuples : List TupleId := []
  slots : List SlotId := []

def Handed.append (a b : Handed) : Handed := ⟨a.tuples ++ b.tuples, a.slots ++ b.slots⟩

namespace Scope

inductive Request where
  | createTuple
  | addSlot (tuple : TupleId)
  | register (table : Table) (aliasName : Option String)
  | set (slot : SlotId) (setting : Setting)
  deriving DecidableEq

/-- The slots that have been made since. -/
def madeSince (grown s : Scope) : List Slot := grown.slots.drop s.slots.length

/-- The ids of the tuples and slots that have been made since. -/
def idsSince (grown s : Scope) : Handed :=
  ⟨(grown.tuples.drop s.tuples.length).map (·.id), (grown.madeSince s).map (·.id)⟩

theorem idsSince_self (s : Scope) : s.idsSince s = {} := by
  simp [idsSince, madeSince]

/-- The ids that the call hands out, and the scope after it. A registered table comes with the slots
of its tuple, and a registration that is cut short with whatever it leaves. -/
def perform (s : Scope) : Request → Handed × Scope
  | .createTuple =>
    match s.createTuple with
    | .ok (id, grown) => ({ tuples := [id] }, grown)
    | .error _ => ({}, s)
  | .addSlot tuple =>
    match s.addSlot tuple with
    | .ok (id, grown) => ({ slots := [id] }, grown)
    | .error _ => ({}, s)
  | .register table aliasName =>
    match s.registration table aliasName with
    | (.ok id, grown) => ({ tuples := [id], slots := (grown.tupleSlots id).map (·.id) }, grown)
    | (.error _, left) => (left.idsSince s, left)
  | .set slot setting => ({}, s.updateSlot slot setting.apply)

def run (s : Scope) : List Request → Scope
  | [] => s
  | request :: rest => (s.perform request).2.run rest

end Scope

namespace Pool

inductive Request where
  | openScope
  | call (number : Nat) (request : Scope.Request)
  deriving DecidableEq

/-- A call on a scope that is not there does nothing. -/
def perform (p : Pool) : Request → Handed × Pool
  | .openScope => ({}, p.openScope.2)
  | .call number request =>
    match p.scope? number with
    | some s => ((s.perform request).1, p.put number (s.perform request).2)
    | none => ({}, p)

def run (p : Pool) : List Request → Handed × Pool
  | [] => ({}, p)
  | request :: rest =>
    let (first, next) := p.perform request
    let (others, last) := next.run rest
    (first.append others, last)

theorem run_cons (p : Pool) (request : Request) (rest : List Request) :
    p.run (request :: rest) =
      ((p.perform request).1.append ((p.perform request).2.run rest).1,
        ((p.perform request).2.run rest).2) := rfl

theorem run_append (p : Pool) (before after : List Request) :
    (p.run (before ++ after)).2 = ((p.run before).2.run after).2 := by
  induction before generalizing p with
  | nil => rfl
  | cons request rest ih => exact ih _

end Pool
end ScalarSql

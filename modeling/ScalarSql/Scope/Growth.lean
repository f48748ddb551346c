import ScalarSql.Scope.Basic

/-!
Adding tuples and slots to a scope, and registering the tables that a query reads. Ids are handed
out in order and never again, so a scope that has handed out all of a kind refuses to grow. A call
that is refused changes nothing, but for a registration for which slot ids run out: its tuple stays,
with the slots made so far.
-/
namespace ScalarSql

/-- How many ids of a kind a scope can hand out. -/
def idLimit : Nat := UInt32.size

namespace Scope

def newTuple (s : Scope) (table : Option Table) (aliasName : Option String) :
    Except ScopeError (TupleId × Scope) :=
  let count := s.tuples.length
  if count < idLimit then
    let id : TupleId := ⟨s.number, UInt32.ofNat count⟩
    .ok (id, { s with tuples := s.tuples ++ [{ id, table, aliasName }] })
  else .error (.tooManyTuples count)

/-- A tuple without a table, as for a computed result. -/
def createTuple (s : Scope) : Except ScopeError (TupleId × Scope) := s.newTuple none none

/-- A slot of the tuple, filled in before it is stored. -/
def newSlot (s : Scope) (tuple : TupleId) (fill : Slot → Slot) :
    Except ScopeError (SlotId × Scope) :=
  if (s.tuple? tuple).isNone then .error (.unknownTuple tuple)
  else
    let count := s.slots.length
    if count < idLimit then
      let id : SlotId := ⟨s.number, UInt32.ofNat count⟩
      .ok (id, { s with
        tuples := s.tuples.modify tuple.index.toNat fun t => { t with slots := t.slots ++ [id] }
        slots := s.slots ++ [fill { id, parent := tuple }] })
    else .error (.tooManySlots count)

/-- A slot without a type. -/
def addSlot (s : Scope) (tuple : TupleId) : Except ScopeError (SlotId × Scope) :=
  s.newSlot tuple id

/-- Changes a slot of the scope. Any other id changes nothing. -/
def updateSlot (s : Scope) (id : SlotId) (change : Slot → Slot) : Scope :=
  if id.scope = s.number then { s with slots := s.slots.modify id.index.toNat change } else s

/-- One slot for each column, bound to it and labelled by reference and column. If ids run out, the
slots made so far stay. -/
def addColumns (s : Scope) (tuple : TupleId) (reference : String) :
    List Column → Option ScopeError × Scope
  | [] => (none, s)
  | column :: rest =>
    let label := reference ++ "." ++ column.name
    match s.newSlot tuple fun slot => (slot.bind column).setLabel label with
    | .ok (_, grown) => grown.addColumns tuple reference rest
    | .error e => (some e, s)

/-- A tuple for a table that the query reads, with a slot for each column, and the scope that the
call leaves, whether or not it succeeds. The name the table goes by must be new in the scope. -/
def registration (s : Scope) (table : Table) (aliasName : Option String) :
    Except ScopeError TupleId × Scope :=
  let reference := aliasName.getD table.name
  if (s.findTuple? reference).isSome then (.error (.duplicateReference reference), s)
  else
    match s.newTuple (some table) aliasName with
    | .error e => (.error e, s)
    | .ok (id, opened) =>
      match opened.addColumns id reference table.columns with
      | (none, grown) => (.ok id, grown)
      | (some e, left) => (.error e, left)

/-- The tuple of a registration that succeeds, and the scope after it. -/
def register (s : Scope) (table : Table) (aliasName : Option String) :
    Except ScopeError (TupleId × Scope) :=
  match s.registration table aliasName with
  | (.ok id, grown) => .ok (id, grown)
  | (.error e, _) => .error e

end Scope
end ScalarSql

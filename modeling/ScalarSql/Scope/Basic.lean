import ScalarSql.Catalog.Table
import ScalarSql.Ident

/-!
The scope of a query: its tuples, one for each table it reads or result it computes, and their
slots. An id is a position in one of the two lists, and nothing is ever removed from them.
-/
namespace ScalarSql

/-- One output column of a tuple. Its type is `invalid` until it is set or a column is bound. -/
structure Slot where
  id : SlotId
  parent : TupleId
  ty : DataType := .invalid
  column : Option Column := none
  label : Option String := none
  deriving DecidableEq

structure Tuple where
  id : TupleId
  table : Option Table := none
  aliasName : Option String := none
  slots : List SlotId := []
  deriving DecidableEq

structure Scope where
  number : UInt32
  tuples : List Tuple := []
  slots : List Slot := []
  deriving DecidableEq

inductive ScopeError where
  | unknownTuple (id : TupleId)
  | duplicateReference (name : String)
  | tooManyTuples (count : Nat)
  | tooManySlots (count : Nat)
  deriving DecidableEq, Repr

def ScopeError.message : ScopeError → String
  | unknownTuple id => "Tuple " ++ id.text ++ " is not registered in this scope"
  | duplicateReference name => "Duplicate table alias '" ++ name ++ "'"
  | tooManyTuples count =>
    "Too many tuple descriptors in one scope (" ++ toString count ++ ")"
  | tooManySlots count =>
    "Too many slot descriptors in one scope (" ++ toString count ++ ")"

namespace Slot

def setType (s : Slot) (ty : DataType) : Slot := { s with ty }

/-- A bound slot takes the declared type of its column. -/
def bind (s : Slot) (column : Column) : Slot := { s with ty := column.ty, column := some column }

def setLabel (s : Slot) (label : String) : Slot := { s with label := some label }

def isColumn (s : Slot) (name : String) : Bool :=
  s.column.any fun c => Text.alike c.name name

end Slot

/-- The alias, or else the name of the table. -/
def Tuple.reference? (t : Tuple) : Option String :=
  t.aliasName <|> t.table.map (·.name)

namespace Scope

/-- Ids of other scopes are found nowhere. -/
def tuple? (s : Scope) (id : TupleId) : Option Tuple :=
  if id.scope = s.number then s.tuples[id.index.toNat]? else none

def slot? (s : Scope) (id : SlotId) : Option Slot :=
  if id.scope = s.number then s.slots[id.index.toNat]? else none

/-- The slots of a tuple in the order in which they were added. -/
def tupleSlots (s : Scope) (id : TupleId) : List Slot :=
  match s.tuple? id with
  | some tuple => tuple.slots.filterMap s.slot?
  | none => []

/-- The first tuple that goes by the name. -/
def findTuple? (s : Scope) (name : String) : Option Tuple :=
  s.tuples.find? fun t => t.reference?.any (Text.alike · name)

def findSlot? (s : Scope) (reference column : String) : Option Slot :=
  (s.findTuple? reference).bind fun tuple => (s.tupleSlots tuple.id).find? (·.isColumn column)

end Scope
end ScalarSql

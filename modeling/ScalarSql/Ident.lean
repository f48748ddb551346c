/-!
Names of tuples and slots. They carry the number of their scope, so that ids of different scopes
never agree even where the indices do.
-/
namespace ScalarSql

structure TupleId where
  scope : UInt32
  index : UInt32
  deriving DecidableEq, Repr

structure SlotId where
  scope : UInt32
  index : UInt32
  deriving DecidableEq, Repr

/-- Ids are ordered by scope, then by index. -/
def TupleId.atMost (a b : TupleId) : Bool :=
  a.scope < b.scope || a.scope == b.scope && a.index ≤ b.index

def SlotId.atMost (a b : SlotId) : Bool :=
  a.scope < b.scope || a.scope == b.scope && a.index ≤ b.index

/-- The index alone, as ids are shown to people. -/
def TupleId.text (id : TupleId) : String := toString id.index.toNat

def SlotId.text (id : SlotId) : String := toString id.index.toNat

end ScalarSql

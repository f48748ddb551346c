import ScalarSql.Expr.Build
import ScalarSql.Scope.Basic

/-!
From column names to slot references. A qualified name asks the table that goes by the qualifier;
an unqualified one must be a column of exactly one tuple of the scope.
-/
namespace ScalarSql

inductive NameError where
  | unknownTable (name : String)
  | unknownColumn (qualifier : Option String) (column : String)
  | ambiguousColumn (column : String)
  deriving DecidableEq, Repr

def NameError.message : NameError → String
  | unknownTable name => "Unknown table: " ++ name
  | unknownColumn none column => "Unknown column: " ++ column
  | unknownColumn (some qualifier) column => "Unknown column: " ++ qualifier ++ "." ++ column
  | ambiguousColumn column => "Column '" ++ column ++ "' is ambiguous"

/-- A reference to the slot under its present label. -/
def Slot.ref (s : Slot) : SlotRef := ⟨s.parent, s.id, s.label⟩

namespace Scope

/-- The slots of all tuples that are bound to a column of the name. -/
def columnSlots (s : Scope) (column : String) : List Slot :=
  (s.tuples.flatMap fun t => s.tupleSlots t.id).filter (·.isColumn column)

def resolveColumn (s : Scope) (qualifier : Option String) (column : String) :
    Except NameError Expr :=
  match qualifier with
  | some reference =>
    if (s.findTuple? reference).isNone then .error (.unknownTable reference)
    else match s.findSlot? reference column with
      | some slot => .ok (.slot slot.ref)
      | none => .error (.unknownColumn (some reference) column)
  | none =>
    match s.columnSlots column with
    | [] => .error (.unknownColumn none column)
    | [slot] => .ok (.slot slot.ref)
    | _ => .error (.ambiguousColumn column)

end Scope
end ScalarSql

import ScalarSql.Scope.Basic

/-!
Diagnostic text of slots, tuples and scopes. What is not set reads null.
-/
namespace ScalarSql

def Slot.debug (s : Slot) : String :=
  let column := (s.column.map (·.name)).getD "null"
  let ty := if s.ty.isValid then s.ty.sqlName else "null"
  "[slot_id=" ++ s.id.text ++ " col=" ++ column ++ " type=" ++ ty ++ "]"

def Tuple.debug (t : Tuple) : String :=
  let aliasText := match t.aliasName with
    | some name => " alias=" ++ name
    | none => ""
  "[tuple_id=" ++ t.id.text ++ " tbl=" ++ (t.table.map (·.name)).getD "null" ++ aliasText ++
    " slots=[" ++ ", ".intercalate (t.slots.map (·.text)) ++ "]]"

def Scope.debug (s : Scope) : String :=
  " ".intercalate
    ("tuples:" :: s.tuples.map Tuple.debug ++ "slots:" :: s.slots.map Slot.debug)

end ScalarSql

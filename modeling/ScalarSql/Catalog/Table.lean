import ScalarSql.DataType
import ScalarSql.Text.AsciiCase

/-!
Tables and their columns. Column names do not depend on ASCII case and are unique in a table.
-/
namespace ScalarSql

structure Column where
  name : String
  ty : DataType
  position : UInt32
  deriving DecidableEq, Repr

structure Table where
  name : String
  columns : List Column
  deriving DecidableEq, Repr

inductive CatalogError where
  | tableExists (name : String)
  | untypedColumn (table column : String)
  | duplicateColumn (table column : String)
  deriving DecidableEq, Repr

def CatalogError.message : CatalogError → String
  | tableExists name => "Table '" ++ name ++ "' already exists"
  | untypedColumn table column => "Column '" ++ table ++ "." ++ column ++ "' has no declared type"
  | duplicateColumn table column =>
    "Duplicate column '" ++ column ++ "' in table '" ++ table ++ "'"

namespace Table

def column? (t : Table) (name : String) : Option Column :=
  t.columns.find? fun c => Text.alike c.name name

/-- Adds declared columns behind those of the table. Each takes the next position. -/
def addColumns (t : Table) : List (String × DataType) → Except CatalogError Table
  | [] => .ok t
  | (name, ty) :: rest =>
    if !ty.isValid || ty == .null then .error (.untypedColumn t.name name)
    else if (t.column? name).isSome then .error (.duplicateColumn t.name name)
    else
      let column := ⟨name, ty, UInt32.ofNat t.columns.length⟩
      addColumns { t with columns := t.columns ++ [column] } rest

def declare (name : String) (columns : List (String × DataType)) : Except CatalogError Table :=
  addColumns ⟨name, []⟩ columns

end Table
end ScalarSql

import ScalarSql.Catalog.Table
import ScalarSql.Text.LowerCase

/-!
The catalog of tables. Table names do not depend on case in the sense of Unicode; a table keeps
the spelling it was created with.
-/
namespace ScalarSql

/-- Tables under the lower case of their names, in the order of their creation. -/
structure Catalog where
  entries : List (String × Table) := []

namespace Catalog

def table? (c : Catalog) (name : String) : Option Table :=
  c.entries.lookup (Text.lower name)

/-- A name that is taken is reported before any fault of the columns. -/
def create (c : Catalog) (name : String) (columns : List (String × DataType)) :
    Except CatalogError (Table × Catalog) :=
  if (c.table? name).isSome then .error (.tableExists name)
  else do
    let table ← Table.declare name columns
    return (table, ⟨c.entries ++ [(Text.lower name, table)]⟩)

/-- All tables by name, in the order of code points. -/
def tables (c : Catalog) : List Table :=
  (c.entries.map (·.2)).mergeSort fun a b => decide (a.name ≤ b.name)

end Catalog
end ScalarSql

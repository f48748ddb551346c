import ScalarSql.Expr.Debug
import ScalarSql.Expr.Sql

/-!
Items of an ORDER BY list: an expression and a direction.
-/
namespace ScalarSql

structure OrderItem where
  expr : Expr
  ascending : Bool

namespace OrderItem

instance : BEq OrderItem := ⟨fun a b => a.expr == b.expr && a.ascending == b.ascending⟩

def substitute (m : Substitution) (item : OrderItem) : OrderItem :=
  { item with expr := item.expr.substitute m }

def copyWith (m : Option Substitution) (item : OrderItem) : OrderItem :=
  { item with expr := item.expr.copyWith m }

def sql (item : OrderItem) : String :=
  item.expr.sql ++ (if item.ascending then " ASC" else " DESC")

def debug (item : OrderItem) : String :=
  "OrderByElement\x7basc=" ++ toString item.ascending ++ " " ++ item.expr.debug ++ "\x7d"

end OrderItem
end ScalarSql

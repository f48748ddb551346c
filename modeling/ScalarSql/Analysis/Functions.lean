import ScalarSql.DataType
import ScalarSql.Text.LowerCase

/-!
Scalar functions and the types of their results. Who analyses an expression says which functions
there are; the ones here are for every query.
-/
namespace ScalarSql

/-- The result type of a function for the types of its arguments, `none` if it takes no such
arguments. -/
abbrev Functions := String → List DataType → Option DataType

inductive Builtin where
  | abs | ceil | floor | round | sqrt
  | length | lower | upper | trim | concat | substr
  | coalesce
  | now | year
  deriving DecidableEq, Repr

namespace Builtin

def all : List Builtin :=
  [abs, ceil, floor, round, sqrt, length, lower, upper, trim, concat, substr, coalesce, now, year]

def name : Builtin → String
  | abs => "abs"
  | ceil => "ceil"
  | floor => "floor"
  | round => "round"
  | sqrt => "sqrt"
  | length => "length"
  | lower => "lower"
  | upper => "upper"
  | trim => "trim"
  | concat => "concat"
  | substr => "substr"
  | coalesce => "coalesce"
  | now => "now"
  | year => "year"

/-- Names do not depend on case. -/
def ofName? (s : String) : Option Builtin :=
  let key := Text.lower s
  all.find? (·.name == key)

/-- The type all arguments can be assigned to, widening from the first on. -/
def leastCommon? (first : DataType) (rest : List DataType) : Option DataType :=
  rest.foldlM DataType.common? first

def isNumber : DataType → Bool := DataType.orNull DataType.isNumeric

def isWhole : DataType → Bool := DataType.orNull DataType.isInteger

def isText : DataType → Bool := DataType.orNull (· == .string)

def isDate : DataType → Bool := DataType.orNull DataType.isTemporal

def result? : Builtin → List DataType → Option DataType
  | abs, [t] => if t == .null then some .bigInt else if t.isNumeric then some t else none
  | ceil, [t] | floor, [t] => if isNumber t then some .bigInt else none
  | round, [t] => if isNumber t then some .double else none
  | round, [t, digits] => if isNumber t && isWhole digits then some .double else none
  | sqrt, [t] => if isNumber t then some .double else none
  | length, [t] => if isText t then some .int else none
  | lower, [t] | upper, [t] | trim, [t] => if isText t then some .string else none
  | concat, t :: ts => if (t :: ts).all isText then some .string else none
  | substr, [t, start] => if isText t && isWhole start then some .string else none
  | substr, [t, start, count] =>
    if isText t && isWhole start && isWhole count then some .string else none
  | coalesce, t :: ts => leastCommon? t ts
  | now, [] => some .timestamp
  | year, [t] => if isDate t then some .int else none
  | _, _ => none

/-- The functions that every query can use. -/
def functions : Functions := fun name arguments =>
  (ofName? name).bind (·.result? arguments)

end Builtin
end ScalarSql

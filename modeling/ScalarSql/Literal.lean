import ScalarSql.DataType
import ScalarSql.Double
import ScalarSql.Text.Quoted

/-!
Constants, their types and their SQL spelling.
-/
namespace ScalarSql

inductive Literal where
  | null
  | boolean (value : Bool)
  | int (value : Int64)
  | double (value : Double)
  | string (value : String)
  deriving DecidableEq

namespace Literal

/-- The narrowest integer type whose range holds the value. -/
def integerType (v : Int) : DataType :=
  if -128 ≤ v ∧ v < 128 then .tinyInt
  else if -32768 ≤ v ∧ v < 32768 then .smallInt
  else if -2147483648 ≤ v ∧ v < 2147483648 then .int
  else .bigInt

def ty : Literal → DataType
  | null => .null
  | boolean _ => .boolean
  | int v => integerType v.toInt
  | double _ => .double
  | string _ => .string

def sql : Literal → String
  | null => "NULL"
  | boolean true => "TRUE"
  | boolean false => "FALSE"
  | int v => toString v.toInt
  | double v => v.text
  | string s => Text.quoted s

def debugName : Literal → String
  | null => "NullLiteral"
  | boolean _ => "BoolLiteral"
  | int _ => "IntLiteral"
  | double _ => "FloatLiteral"
  | string _ => "StringLiteral"

/-- The value as it stands, without quotes. NULL has none. -/
def debugValue? : Literal → Option String
  | null => none
  | boolean b => some (toString b)
  | int v => some (toString v.toInt)
  | double v => some v.text
  | string s => some s

end Literal
end ScalarSql

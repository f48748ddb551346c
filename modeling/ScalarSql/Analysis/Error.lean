import ScalarSql.Ident
import ScalarSql.DataType

/-!
Why an expression is refused. Where an operand or operator may be one of several nodes, the
message shows the SQL text of the node at fault.
-/
namespace ScalarSql

inductive AnalysisError where
  | unknownSlot (slot : SlotId)
  | untypedSlot (slot : SlotId)
  | operandTypes (operator : String) (left : DataType) (right : Option DataType)
  | incompatible (expression : String) (left right : DataType)
  | nonBooleanOperand (operator : String) (actual : DataType)
  | invalidCast (source target : DataType)
  | unknownFunction (name : String) (arguments : List DataType)
  | aggregateArgument (function : String) (argument : DataType)
  | nestedAggregate (expression : String)
  | depthLimit (limit : Nat)
  | childrenLimit (limit actual : Nat)
  deriving DecidableEq, Repr

namespace AnalysisError

def message : AnalysisError → String
  | unknownSlot slot => "Slot " ++ slot.text ++ " is not registered in the analyzer's scope"
  | untypedSlot slot => "Slot " ++ slot.text ++ " has no resolved type"
  | operandTypes operator left right =>
    "Invalid operand types for operator " ++ operator ++ ": left=" ++ left.sqlName ++ ", right=" ++
      (right.map DataType.sqlName).getD "none"
  | incompatible expression left right =>
    "Incompatible types in '" ++ expression ++ "': " ++ left.sqlName ++ " and " ++ right.sqlName
  | nonBooleanOperand operator actual =>
    "Operand of " ++ operator ++ " must be BOOLEAN, got " ++ actual.sqlName
  | invalidCast source target =>
    "Invalid type cast of " ++ source.sqlName ++ " to " ++ target.sqlName
  | unknownFunction name arguments =>
    "No matching function with signature: " ++ name ++ "(" ++
      ", ".intercalate (arguments.map DataType.sqlName) ++ ")"
  | aggregateArgument function argument =>
    function ++ " requires a numeric argument, got " ++ argument.sqlName
  | nestedAggregate expression =>
    "Aggregate function cannot contain aggregate parameters: " ++ expression
  | depthLimit limit => "Exceeded the maximum expression depth (" ++ toString limit ++ ")"
  | childrenLimit limit actual =>
    "Expression has " ++ toString actual ++ " children, the maximum is " ++ toString limit

end AnalysisError
end ScalarSql

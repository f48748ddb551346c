import ScalarSql.DataType

/-!
The operators of expressions, each with its spelling and the type it gives for the types of its
operands. `none` means that the operands are not accepted.
-/
namespace ScalarSql

inductive Arithmetic where
  | add | subtract | multiply | divide | modulo
  deriving DecidableEq, Repr

inductive Comparison where
  | eq | ne | lt | le | gt | ge
  deriving DecidableEq, Repr

inductive Connective where
  | and | or | not
  deriving DecidableEq, Repr

inductive Pattern where
  | like | rlike | regexp
  deriving DecidableEq, Repr

inductive Aggregate where
  | count | sum | min | max | avg
  deriving DecidableEq, Repr

namespace Arithmetic

def all : List Arithmetic := [add, subtract, multiply, divide, modulo]

def symbol : Arithmetic → String
  | add => "+"
  | subtract => "-"
  | multiply => "*"
  | divide => "/"
  | modulo => "%"

/-- Division always gives a DOUBLE and the remainder wants integers. -/
def result? (op : Arithmetic) (left right : DataType) : Option DataType :=
  if left.orNull DataType.isNumeric && right.orNull DataType.isNumeric then
    match op with
    | divide => some .double
    | modulo =>
      if left.orNull DataType.isInteger && right.orNull DataType.isInteger then left.common? right else none
    | add | subtract | multiply => left.common? right
  else none

end Arithmetic

namespace Comparison

def all : List Comparison := [eq, ne, lt, le, gt, ge]

def symbol : Comparison → String
  | eq => "="
  | ne => "!="
  | lt => "<"
  | le => "<="
  | gt => ">"
  | ge => ">="

/-- The operator that says the same of the exchanged operands. -/
def converse : Comparison → Comparison
  | eq => eq
  | ne => ne
  | lt => gt
  | le => ge
  | gt => lt
  | ge => le

theorem converse_converse (op : Comparison) : op.converse.converse = op := by cases op <;> rfl

def result? (_op : Comparison) (left right : DataType) : Option DataType :=
  (left.common? right).map fun _ => .boolean

theorem converse_result? (op : Comparison) (left right : DataType) :
    op.converse.result? right left = op.result? left right := by
  simp [result?, DataType.common?_comm right left]

end Comparison

namespace Connective

def all : List Connective := [and, or, not]

def symbol : Connective → String
  | and => "AND"
  | or => "OR"
  | not => "NOT"

def arity : Connective → Nat
  | not => 1
  | and | or => 2

def accepts (_op : Connective) (operand : DataType) : Bool :=
  operand.orNull (· == .boolean)

end Connective

namespace Pattern

def all : List Pattern := [like, rlike, regexp]

def symbol : Pattern → String
  | like => "LIKE"
  | rlike => "RLIKE"
  | regexp => "REGEXP"

def result? (_op : Pattern) (left right : DataType) : Option DataType :=
  if left.orNull (· == .string) && right.orNull (· == .string) then some .boolean else none

end Pattern

namespace Aggregate

def all : List Aggregate := [count, sum, min, max, avg]

def symbol : Aggregate → String
  | count => "COUNT"
  | sum => "SUM"
  | min => "MIN"
  | max => "MAX"
  | avg => "AVG"

/-- Only COUNT does without an argument. -/
def result? (op : Aggregate) (argument : Option DataType) : Option DataType :=
  match op, argument with
  | count, _ => some .bigInt
  | _, none => none
  | sum, some t =>
    if t.orNull DataType.isInteger then some .bigInt
    else if t.isFloating then some .double
    else none
  | avg, some t => if t.orNull DataType.isNumeric then some .double else none
  | min, some t | max, some t => if t.isValid then some t else none

end Aggregate
end ScalarSql

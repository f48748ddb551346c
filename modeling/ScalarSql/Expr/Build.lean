import ScalarSql.Expr.Basic
import ScalarSql.Text.LowerCase

/-!
Building expressions. Nodes start without a type, and each constructor takes as many operands as
its kind has.
-/
namespace ScalarSql

/-- An IN predicate was given nothing to compare with. -/
structure EmptyMembership where
  deriving DecidableEq, Repr

def EmptyMembership.message (_ : EmptyMembership) : String :=
  "IN predicate requires a non-empty list"

namespace Expr

def untyped (kind : Kind) (children : List Expr) : Expr := node kind children .invalid

def slot (ref : SlotRef) : Expr := untyped (.slot ref) []

def literal (value : Literal) : Expr := untyped (.literal value) []

def arithmetic (op : Arithmetic) (left right : Expr) : Expr :=
  untyped (.arithmetic op) [left, right]

def comparison (op : Comparison) (left right : Expr) : Expr :=
  untyped (.comparison op) [left, right]

def and (left right : Expr) : Expr := untyped (.connective .and) [left, right]

def or (left right : Expr) : Expr := untyped (.connective .or) [left, right]

def not (operand : Expr) : Expr := untyped (.connective .not) [operand]

def isNull (operand : Expr) : Expr := untyped (.nullTest false) [operand]

def isNotNull (operand : Expr) : Expr := untyped (.nullTest true) [operand]

def pattern (op : Pattern) (value pattern : Expr) : Expr :=
  untyped (.pattern op) [value, pattern]

def membership (compared : Expr) (members : List Expr) (negated : Bool) :
    Except EmptyMembership Expr :=
  if members.isEmpty then .error {}
  else .ok (untyped (.membership negated) (compared :: members))

def between (compared low high : Expr) (negated : Bool) : Expr :=
  untyped (.range negated) [compared, low, high]

def cast (operand : Expr) (target : DataType) : Expr := untyped (.cast target) [operand]

/-- Function names do not depend on case; the tree holds them in lower case. -/
def call (name : String) (arguments : List Expr) : Expr :=
  untyped (.call (Text.lower name)) arguments

def aggregate (op : Aggregate) (argument : Expr) (distinct : Bool) : Expr :=
  untyped (.aggregate op distinct) [argument]

def countStar : Expr := untyped (.aggregate .count false) []

end Expr
end ScalarSql

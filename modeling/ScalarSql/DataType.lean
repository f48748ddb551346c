/-!
The types a column, slot or expression can have. `common?` is the implicit widening of two types
to one, `castableTo` what an explicit CAST allows.
-/
namespace ScalarSql

/-- The order of the constructors is the widening order inside each family. -/
inductive DataType where
  | invalid | null | boolean
  | tinyInt | smallInt | int | bigInt
  | float | double
  | date | dateTime | timestamp
  | string
  deriving DecidableEq, Repr

namespace DataType

def all : List DataType :=
  [invalid, null, boolean, tinyInt, smallInt, int, bigInt, float, double,
    date, dateTime, timestamp, string]

def code : DataType → Nat
  | invalid => 0 | null => 1 | boolean => 2
  | tinyInt => 3 | smallInt => 4 | int => 5 | bigInt => 6
  | float => 7 | double => 8
  | date => 9 | dateTime => 10 | timestamp => 11
  | string => 12

def ofCode? (n : Nat) : Option DataType := all[n]?

theorem ofCode?_code (t : DataType) : ofCode? t.code = some t := by cases t <;> rfl

theorem code_of_ofCode? {n : Nat} {t : DataType} (h : ofCode? n = some t) : t.code = n := by
  have bound : n < all.length := (List.getElem?_eq_some_iff.1 h).1
  match n, bound with
  | 0, _ | 1, _ | 2, _ | 3, _ | 4, _ | 5, _ | 6, _ | 7, _ | 8, _ | 9, _ | 10, _ | 11, _ | 12, _ =>
    cases h; rfl

def sqlName : DataType → String
  | invalid => "INVALID_TYPE"
  | null => "NULL_TYPE"
  | boolean => "BOOLEAN"
  | tinyInt => "TINYINT"
  | smallInt => "SMALLINT"
  | int => "INT"
  | bigInt => "BIGINT"
  | float => "FLOAT"
  | double => "DOUBLE"
  | date => "DATE"
  | dateTime => "DATETIME"
  | timestamp => "TIMESTAMP"
  | string => "STRING"

def ofSqlName? (s : String) : Option DataType := all.find? (·.sqlName == s)

theorem ofSqlName?_sqlName (t : DataType) : ofSqlName? t.sqlName = some t := by cases t <;> decide

/-- Every type but `invalid`, which marks what has not been resolved. -/
def isValid (t : DataType) : Bool := t != invalid

def isInteger : DataType → Bool
  | tinyInt | smallInt | int | bigInt => true
  | _ => false

def isFloating : DataType → Bool
  | float | double => true
  | _ => false

def isNumeric (t : DataType) : Bool := t.isInteger || t.isFloating

def isTemporal : DataType → Bool
  | date | dateTime | timestamp => true
  | _ => false

/-- A NULL may stand wherever a type of the family may. -/
def orNull (family : DataType → Bool) (t : DataType) : Bool := family t || t == null

def precedes (a b : DataType) : Bool := a.code < b.code

/-- The later of two types in the order of declaration. -/
def wider (a b : DataType) : DataType := if a.precedes b then b else a

/-- The type both operands can be assigned to: numbers widen to the later numeric type, dates to
the later date type, and NULL adopts the other side. -/
def common? (a b : DataType) : Option DataType :=
  if !a.isValid || !b.isValid then none
  else if a = b then some a
  else if a = null then some b
  else if b = null then some a
  else if a.isNumeric && b.isNumeric || a.isTemporal && b.isTemporal then some (a.wider b)
  else none

theorem common?_comm (a b : DataType) : a.common? b = b.common? a := by
  cases a <;> cases b <;> rfl

theorem common?_self {a : DataType} (valid : a.isValid = true) : a.common? a = some a := by
  simp [common?, valid]

/-- NULL casts to every type but itself. Otherwise all types cast among each other except dates
and booleans. -/
def castableTo (source target : DataType) : Bool :=
  source.isValid && target.isValid && target != null &&
    (source == null || source == target ||
      !(source.isTemporal && target == boolean || source == boolean && target.isTemporal))

end DataType

/-- A code that no type has. -/
structure UnknownTypeCode where
  code : Nat
  deriving DecidableEq, Repr

def UnknownTypeCode.message (e : UnknownTypeCode) : String :=
  "Unknown primitive type: " ++ toString e.code

end ScalarSql

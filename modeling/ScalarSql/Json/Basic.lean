/-!
JSON values as they are read from a text. A number keeps its spelling, which tells an integer from
a number with a fraction or exponent. A string can hold escapes that stand for no text; it then
has none.
-/
namespace ScalarSql

inductive Json where
  | null
  | boolean (value : Bool)
  | number (spelling : String)
  | string (text : Option String)
  | array (items : List Json)
  | object (members : List (Option String × Json))

namespace Json

def isNull : Json → Bool
  | null => true
  | _ => false

def text? : Json → Option String
  | string text => text
  | _ => none

/-- A number that is written with digits alone and lies below the bound. -/
def naturalBelow? (bound : Nat) : Json → Option Nat
  | number spelling => do
    guard (spelling.toList.all Char.isDigit)
    let n ← spelling.toNat?
    guard (n < bound)
    return n
  | _ => none

/-- Every member has a name that is a text. -/
def named (members : List (Option String × Json)) : Bool :=
  members.all fun m => m.1.isSome

/-- The values of the members of a name. -/
def valuesOf (name : String) (members : List (Option String × Json)) : List Json :=
  members.filterMap fun m => if m.1 = some name then some m.2 else none

end Json
end ScalarSql

import ScalarSql.Scope.Growth

/-!
All scopes of a session, numbered from 1 in the order in which they were opened.
-/
namespace ScalarSql

structure Pool where
  scopes : List Scope := []

namespace Pool

def scope? (p : Pool) (number : Nat) : Option Scope :=
  if number = 0 then none else p.scopes[number - 1]?

/-- A new scope without tuples. -/
def openScope (p : Pool) : Scope × Pool :=
  let scope : Scope := { number := UInt32.ofNat (p.scopes.length + 1) }
  (scope, ⟨p.scopes ++ [scope]⟩)

/-- Puts a changed scope in its place. -/
def put (p : Pool) (number : Nat) (scope : Scope) : Pool :=
  if number = 0 then p else ⟨p.scopes.set (number - 1) scope⟩

end Pool
end ScalarSql

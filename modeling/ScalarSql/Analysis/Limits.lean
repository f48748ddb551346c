import ScalarSql.Analysis.Error

/-!
Limits on the shape of the trees that analysis walks.
-/
namespace ScalarSql

/-- The root has depth 1. -/
structure Limits where
  maxDepth : Nat := 1000
  maxChildren : Nat := 10000
  deriving DecidableEq, Repr

/-- The limit that a node exceeds, the depth before the number of children. -/
def Limits.violation? (limits : Limits) (depth children : Nat) : Option AnalysisError :=
  if limits.maxDepth < depth then some (.depthLimit limits.maxDepth)
  else if limits.maxChildren < children then some (.childrenLimit limits.maxChildren children)
  else none

end ScalarSql

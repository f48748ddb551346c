import ScalarSql.Proofs.Analysis.Agreement
import ScalarSql.Proofs.Analysis.Failure

/-!
Analysis under higher limits. A walk that ends for any reason but a limit takes the same course under
higher limits, so it ends the same way and leaves the same tree. A walk that ends at a limit has met
a node that exceeds it (`raised_limits_remove_limit_errors`).
-/
namespace ScalarSql

/-- Lower limits allow less. -/
instance : LE Limits :=
  ⟨fun low high => low.maxDepth ≤ high.maxDepth ∧ low.maxChildren ≤ high.maxChildren⟩

theorem Limits.violation?_eq_none_of_le {low high : Limits} (raised : low ≤ high)
    {depth children : Nat} (within : low.violation? depth children = none) :
    high.violation? depth children = none := by
  obtain ⟨deep, wide⟩ := violation?_eq_none_iff.1 within
  exact violation?_eq_none_iff.2 ⟨Nat.le_trans deep raised.1, Nat.le_trans wide raised.2⟩

namespace Analyzer

variable {a : Analyzer} {limits : Limits}

def withLimits (a : Analyzer) (limits : Limits) : Analyzer := { a with limits := limits }

/-- Rules know no limits, and a node within a limit is within any higher one. -/
theorem agreesBut_withLimits (raised : a.limits ≤ limits) :
    AgreesBut AnalysisError.isLimit a (a.withLimits limits) where
  limits := by
    intro depth children clear
    cases entered : a.limits.violation? depth children with
    | none => exact Limits.violation?_eq_none_of_le raised entered
    | some E =>
      have limit := Limits.isLimit_of_violation? entered
      rw [clear E entered] at limit
      cases limit
  rules := fun _ _ _ => rfl

/-- A walk that ends at a limit has met a node that exceeds it. -/
theorem exists_exceeding_of_failure {e : Expr} {E : AnalysisError}
    (failed : (a.analyze e).failure = some E) (shape : E.isLimit = true) :
    ∃ path n, e.at? path = some n ∧
      a.limits.violation? (path.length + 1) n.children.length = some E := by
  obtain ⟨path, n, _, _, _, _, leads, _, _, breaks, _⟩ := walk_failure (Nat.le_refl 1) failed
  obtain ⟨-, -, exceeded⟩ := breaks.exceeded shape
  rw [Nat.add_comm] at exceeded
  exact ⟨path, n, leads, exceeded⟩

/-- Raising limits removes limit errors and does nothing else: where no limit ends the analysis, it
has the same outcome under higher limits. A limit error is reported only of a tree that has a path
beyond the depth or a node with the number of children that the error states, and the error states
the limit in force. -/
theorem raised_limits_remove_limit_errors (a : Analyzer) {limits : Limits}
    (raised : a.limits ≤ limits) (e : Expr) :
    ((∀ E, (a.analyze e).failure = some E → E.isLimit = false) →
      (a.withLimits limits).analyze e = a.analyze e) ∧
    (∀ bound, (a.analyze e).failure = some (.depthLimit bound) →
      bound = a.limits.maxDepth ∧
        ∃ path n, e.at? path = some n ∧ a.limits.maxDepth < path.length + 1) ∧
    ∀ bound count, (a.analyze e).failure = some (.childrenLimit bound count) →
      bound = a.limits.maxChildren ∧ a.limits.maxChildren < count ∧
        ∃ n ∈ e.nodes, n.children.length = count := by
  refine ⟨walk_of_agreesBut (agreesBut_withLimits raised), ?_, ?_⟩
  · intro bound failed
    obtain ⟨path, n, leads, exceeded⟩ := exists_exceeding_of_failure failed rfl
    rcases Limits.violation?_eq_some_iff.1 exceeded with ⟨same, deep⟩ | ⟨other, -⟩
    · cases same
      exact ⟨rfl, path, n, leads, deep⟩
    · cases other
  · intro bound count failed
    obtain ⟨path, n, leads, exceeded⟩ := exists_exceeding_of_failure failed rfl
    rcases Limits.violation?_eq_some_iff.1 exceeded with ⟨other, -⟩ | ⟨same, -, wide⟩
    · cases other
    · cases same
      exact ⟨rfl, wide, n, Expr.mem_nodes_iff_at?.2 ⟨path, leads⟩, rfl⟩

/-- A tree refused for an operand in front of a branch that is too deep is refused for it under any
higher limits; with the branch in front, or as part of a range, it is refused for its shape. -/
theorem operand_refused_before_deep_branch :
    let a : Analyzer := { scope := { number := 1 }, limits := { maxDepth := 3, maxChildren := 2 } }
    let wrong : Expr := .arithmetic .add (.literal (.string "a")) (.literal (.int 1))
    let deep : Expr := (Expr.not (.not (.isNull (.literal .null)))).setType .date
    let range : Expr := .not (.between wrong deep deep true)
    a.limits ≤ {} ∧
    ((a.analyze (.and wrong deep)).failure = some (.operandTypes "+" .string (some .tinyInt)) ∧
      (a.withLimits {}).analyze (.and wrong deep) = a.analyze (.and wrong deep)) ∧
    ((a.analyze (.and deep wrong)).failure = some (.depthLimit 3) ∧
      ∃ path n, (Expr.and deep wrong).at? path = some n ∧ 3 < path.length + 1) ∧
    (a.analyze range).failure = some (.childrenLimit 2 3) ∧
      ∃ n ∈ range.nodes, n.children.length = 3 := by
  intro a wrong deep range
  have raised : a.limits ≤ {} := ⟨by decide, by decide⟩
  have refused : (a.analyze (.and wrong deep)).failure =
      some (.operandTypes "+" .string (some .tinyInt)) := by decide
  have tooDeep : (a.analyze (.and deep wrong)).failure = some (.depthLimit 3) := by decide
  have tooWide : (a.analyze range).failure = some (.childrenLimit 2 3) := by decide
  have kept := (raised_limits_remove_limit_errors a raised (.and wrong deep)).1
  have depth := (raised_limits_remove_limit_errors a raised (.and deep wrong)).2.1 3 tooDeep
  have width := (raised_limits_remove_limit_errors a raised range).2.2 2 3 tooWide
  refine ⟨raised, ⟨refused, kept fun E failed => ?_⟩, ⟨tooDeep, depth.2⟩, tooWide, width.2.2⟩
  rw [refused] at failed
  cases failed
  rfl

end Analyzer
end ScalarSql

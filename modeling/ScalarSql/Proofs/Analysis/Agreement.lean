import ScalarSql.Proofs.Analysis.Success

/-!
Two analyzers on one tree. If the second checks limits and applies rules as the first does, but
perhaps where the first fails for errors of a certain sort, then a walk that the first does not end
with such an error comes out the same (`walk_of_agreesBut`).
-/
namespace ScalarSql
namespace Analyzer

/-- `b` decides as `a` wherever `a` does not fail for one of the errors. -/
structure AgreesBut (errors : AnalysisError → Bool) (a b : Analyzer) : Prop where
  limits : ∀ depth children,
    (∀ E, a.limits.violation? depth children = some E → errors E = false) →
      b.limits.violation? depth children = a.limits.violation? depth children
  rules : ∀ kind children, (∀ E, a.rule kind children = .error E → errors E = false) →
    b.rule kind children = a.rule kind children

variable {errors : AnalysisError → Bool} {a b : Analyzer}

/-- A list is walked alike if its trees are, as far as the walk goes. -/
theorem walkAll_of_agreesBut {es : List Expr} {depth : Nat}
    (each : ∀ e ∈ es, (∀ E, (a.walk depth e).failure = some E → errors E = false) →
      b.walk depth e = a.walk depth e)
    (clear : ∀ E, (a.walkAll depth es).failure = some E → errors E = false) :
    b.walkAll depth es = a.walkAll depth es := by
  induction es with
  | nil => rfl
  | cons e es ih =>
    rw [walkAll_cons] at clear
    have first : b.walk depth e = a.walk depth e := by
      refine each e (by simp) fun E failed => clear E ?_
      simp only [failed]
    rw [walkAll_cons, walkAll_cons, first]
    cases failed : (a.walk depth e).failure with
    | some F => simp only [failed]
    | none =>
      simp only [failed] at clear ⊢
      rw [ih (fun c member => each c (List.mem_cons_of_mem e member)) clear]

theorem walk_of_agreesBut (agree : AgreesBut errors a b) {e : Expr} {depth : Nat}
    (clear : ∀ E, (a.walk depth e).failure = some E → errors E = false) :
    b.walk depth e = a.walk depth e := by
  induction e using Expr.children_induction generalizing depth with
  | node kind children ty ih =>
    rw [walk_node] at clear
    have limits : b.limits.violation? depth children.length =
        a.limits.violation? depth children.length := by
      refine agree.limits depth children.length fun E exceeded => clear E ?_
      simp only [exceeded]
    rw [walk_node, walk_node, limits]
    cases entered : a.limits.violation? depth children.length with
    | some F => rfl
    | none =>
      simp only [entered] at clear
      have below : b.walkAll (depth + 1) children = a.walkAll (depth + 1) children := by
        refine walkAll_of_agreesBut (fun c member => ih c member) fun E failed => clear E ?_
        simp only [failed]
      rw [below]
      cases failed : (a.walkAll (depth + 1) children).failure with
      | some F => simp only [failed]
      | none =>
        simp only [failed] at clear ⊢
        rw [agree.rules kind _ fun E refused => clear E (by simp only [refused])]

end Analyzer
end ScalarSql

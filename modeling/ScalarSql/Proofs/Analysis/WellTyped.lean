import ScalarSql.Proofs.Analysis.Success
import ScalarSql.Proofs.Typing.Rules

/-!
Analysis accepts exactly the well-typed trees. A tree is well typed if each node has the type that
the typing rules give it; analysis succeeds on a tree from the constructors exactly if the tree is
within the limits, has no aggregate inside another one, and can be given types that make it well
typed. There is one such choice of types, and it is the one that analysis leaves.
-/
namespace ScalarSql

/-- Every node has the type that the rules give for its kind and the types of its children. -/
def WellTyped (scope : Scope) (functions : Functions) (e : Expr) : Prop :=
  ∀ n ∈ e.nodes, Typing scope functions n.kind (n.children.map Expr.ty) n.ty

/-- No aggregate stands below another one, at any distance. -/
def Expr.AggregatesApart (e : Expr) : Prop :=
  ∀ outer ∈ e.nodes, outer.shape = .aggregate →
    ∀ c ∈ outer.children, ∀ inner ∈ c.nodes, inner.shape ≠ .aggregate

/-- Whether aggregates are apart does not depend on types. -/
theorem Expr.aggregatesApart_of_bare_eq {a b : Expr} (same : a.bare = b.bare)
    (apart : a.AggregatesApart) : b.AggregatesApart := by
  refine forall_nodes_of_bare_eq (fun {c d} equal own => ?_) same apart
  obtain ⟨k, cs, s⟩ := c
  obtain ⟨l, ds, t⟩ := d
  obtain ⟨rfl, below⟩ := node_bare_eq_iff.1 equal
  intro aggregate x member
  obtain ⟨y, inside, pair⟩ := exists_mem_of_forall₂ below member
  have free := contains_eq_false_iff.2 (own aggregate y inside)
  rw [contains_congr .aggregate (beq_of_bare_eq pair)] at free
  exact contains_eq_false_iff.1 free

namespace Analyzer

/-- Where the number of children is right, the computed rules hold at all nodes exactly if the
typing rules do and aggregates are apart. -/
theorem settled_iff {a : Analyzer} {e : Expr} (fits : e.FitsArity) :
    a.Settled e ↔ WellTyped a.scope a.functions e ∧ e.AggregatesApart := by
  have each : ∀ n ∈ e.nodes, a.rule n.kind n.children = .ok n.ty ↔
      Typing a.scope a.functions n.kind (n.children.map Expr.ty) n.ty ∧
        (n.shape = .aggregate →
          ∀ c ∈ n.children, ∀ inner ∈ c.nodes, inner.shape ≠ .aggregate) := by
    intro n inside
    rw [rule_ok_iff (fits n inside)]
    simp only [Expr.contains_eq_false_iff, Expr.shape]
  constructor
  · intro settled
    exact ⟨fun n inside => ((each n inside).1 (settled n inside)).1,
      fun n inside => ((each n inside).1 (settled n inside)).2⟩
  · rintro ⟨typed, apart⟩ n inside
    exact (each n inside).2 ⟨typed n inside, apart n inside⟩

/-- Analysis accepts a tree exactly if it is within the limits, its aggregates are apart and its
nodes can be given types that follow the typing rules; the types it leaves are then the only ones
that do. -/
theorem analyze_accepts_iff_wellTyped (a : Analyzer) (e : Expr) (built : e.Built) :
    ((a.analyze e).failure = none ↔
      (e.DepthAtMost a.limits.maxDepth ∧ e.WidthAtMost a.limits.maxChildren) ∧
        e.AggregatesApart ∧
        ∃ typed, e.bare = typed.bare ∧ WellTyped a.scope a.functions typed) ∧
    ((a.analyze e).failure = none → ∀ typed,
      (e.bare = typed.bare ∧ WellTyped a.scope a.functions typed) ↔
        typed = (a.analyze e).result) := by
  have fits := Expr.built_fitsArity built
  have complete : ∀ typed, e.bare = typed.bare → WellTyped a.scope a.functions typed →
      e.DepthAtMost a.limits.maxDepth → e.WidthAtMost a.limits.maxChildren → e.AggregatesApart →
      (a.analyze e).failure = none ∧ (a.analyze e).result = typed := by
    intro typed kinds wellTyped deep wide apart
    have settled : a.Settled typed :=
      (settled_iff (Expr.fitsArity_of_bare_eq kinds fits)).2
        ⟨wellTyped, Expr.aggregatesApart_of_bare_eq kinds apart⟩
    exact analyze_ok_iff.2 ⟨kinds, settled, deep, wide⟩
  have sound : (a.analyze e).failure = none →
      (e.DepthAtMost a.limits.maxDepth ∧ e.WidthAtMost a.limits.maxChildren) ∧
        e.AggregatesApart ∧ e.bare = (a.analyze e).result.bare ∧
        WellTyped a.scope a.functions (a.analyze e).result := by
    intro success
    obtain ⟨kinds, settled, deep, wide⟩ := analyze_ok_iff.1 ⟨success, rfl⟩
    obtain ⟨wellTyped, apart⟩ := (settled_iff (Expr.fitsArity_of_bare_eq kinds fits)).1 settled
    exact ⟨⟨deep, wide⟩, Expr.aggregatesApart_of_bare_eq kinds.symm apart, kinds, wellTyped⟩
  constructor
  · constructor
    · intro success
      obtain ⟨limits, apart, kinds, wellTyped⟩ := sound success
      exact ⟨limits, apart, _, kinds, wellTyped⟩
    · rintro ⟨⟨deep, wide⟩, apart, typed, kinds, wellTyped⟩
      exact (complete typed kinds wellTyped deep wide apart).1
  · intro success typed
    obtain ⟨⟨deep, wide⟩, apart, kinds, wellTyped⟩ := sound success
    constructor
    · rintro ⟨kinds', wellTyped'⟩
      exact (complete typed kinds' wellTyped' deep wide apart).2.symm
    · rintro rfl
      exact ⟨kinds, wellTyped⟩

/-- A sum over a number and a NULL can be typed in one way. -/
theorem sum_over_null_typed_once :
    let a : Analyzer := { scope := { number := 1 } }
    let e : Expr := .aggregate .sum (.arithmetic .add (.literal (.int 300)) (.literal .null)) true
    e.Built ∧ (a.analyze e).failure = none ∧
      ∀ typed, (e.bare = typed.bare ∧ WellTyped a.scope a.functions typed) ↔
        typed = (a.analyze e).result := by
  intro a e
  have built : e.Built := .aggregate _ _ (.arithmetic _ (.literal _) (.literal _))
  have success : (a.analyze e).failure = none := by decide
  exact ⟨built, success, (analyze_accepts_iff_wellTyped a e built).2 success⟩

end Analyzer
end ScalarSql

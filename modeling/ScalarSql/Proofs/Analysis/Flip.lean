import ScalarSql.Proofs.Analysis.Substitute
import ScalarSql.Proofs.Tree.Flip

/-!
Analysis does not see which way round a comparison is written: two types have the same common type
in either order, and no limit and no search for aggregates looks at the order of operands. A tree
with comparisons turned around is accepted exactly if the tree is, and each of its nodes gets the
type of the node it came from (`flipped_comparisons_unnoticed`).
-/
namespace ScalarSql

open ScalarSql.Expr

namespace Analyzer

variable {a : Analyzer}

theorem settled_flip (chosen : Choice) {t : Expr} (settled : a.Settled t) :
    a.Settled (t.flip chosen) := by
  revert settled
  refine flip_induction (motive := fun e f => a.Settled e → a.Settled f) ?_ ?_ chosen t
  · intro kind cs ds ty flipped settles settled
    obtain ⟨rule, inner⟩ := settled_node.1 settled
    have types : ds.map Expr.ty = cs.map Expr.ty := by
      refine map_eq_map_iff_forall₂.2 (flipped.imp ?_).flip
      rintro c _ ⟨choice, rfl⟩
      exact ty_flip choice c
    have apart : anyContains .aggregate (cs.take 1) = anyContains .aggregate (ds.take 1) := by
      rw [anyContains_eq_any, anyContains_eq_any]
      refine any_eq_of_forall₂ ((List.forall₂_take 1 flipped).imp ?_)
      rintro c _ ⟨choice, rfl⟩
      exact contains_flip choice c .aggregate
    refine settled_node.2 ⟨rule_of_types types (fun alone => apart ▸ alone) rule, ?_⟩
    intro d member
    obtain ⟨c, inside, settles⟩ := exists_mem_of_forall₂ settles member
    exact settles (inner c inside)
  · rintro op left right _ _ ty ⟨choice, rfl⟩ ⟨choice', rfl⟩ first second settled
    obtain ⟨rule, inner⟩ := settled_node.1 settled
    have turned := And.intro (second (inner right (by simp))) (first (inner left (by simp)))
    refine settled_node.2 ⟨?_, by simpa using turned⟩
    rw [comparisonRule_ok_iff] at rule ⊢
    rw [ty_flip, ty_flip, op.converse_result?, rule]

/-- What becomes of an accepted tree is flipped with it. -/
theorem analyze_flip {e : Expr} (chosen : Choice) (success : (a.analyze e).failure = none) :
    (a.analyze (e.flip chosen)).failure = none ∧
      (a.analyze (e.flip chosen)).result = (a.analyze e).result.flip chosen := by
  obtain ⟨kinds, settled, deep, wide⟩ := analyze_ok_iff.1 ⟨success, rfl⟩
  refine analyze_ok_iff.2 ⟨?_, settled_flip chosen settled, depthAtMost_flip chosen e deep,
    widthAtMost_flip chosen e wide⟩
  rw [bare_flip, bare_flip, kinds]

/-- Analysis accepts a tree with comparisons turned around exactly if it accepts the tree, and then
gives each node the type of the node that it came from. Both trees are bound by the same tuples,
refer to the same ids and contain the same forms of nodes. Every node came from one of the tree,
every node of the tree has become one, and turning the same nodes around again gives the tree
back. -/
theorem flipped_comparisons_unnoticed (a : Analyzer) (e : Expr) (chosen : Choice) :
    let f := e.flip chosen
    ((a.analyze f).failure = none ↔ (a.analyze e).failure = none) ∧
    ((a.analyze e).failure = none →
      (a.analyze f).result = (a.analyze e).result.flip chosen ∧
      ∀ path, ((a.analyze f).result.at? path).map Expr.ty =
        ((a.analyze e).result.at? (e.pathBefore chosen path)).map Expr.ty) ∧
    (∀ tuples, f.boundBy tuples = e.boundBy tuples) ∧
    (∀ start, (∀ id, id ∈ (f.references start).tuples ↔ id ∈ (e.references start).tuples) ∧
      ∀ id, id ∈ (f.references start).slots ↔ id ∈ (e.references start).slots) ∧
    (∀ shape, f.contains shape = e.contains shape) ∧
    (∀ path, f.at? path = (e.at? (e.pathBefore chosen path)).map
      (flip fun rest => chosen (e.pathBefore chosen path ++ rest))) ∧
    (∀ path, e.pathBefore chosen (f.pathBefore (sameNodes chosen e) path) = path) ∧
    f.flip (sameNodes chosen e) = e := by
  intro f
  have back : f.flip (sameNodes chosen e) = e := flip_flip chosen e
  refine ⟨⟨?_, fun success => (analyze_flip chosen success).1⟩, ?_,
    fun tuples => (boundBy_flip chosen e tuples).symm, mem_references_of_perm (refs_flip chosen e),
    fun shape => (contains_flip chosen e shape).symm, at?_flip chosen e,
    pathBefore_pathBefore chosen e, back⟩
  · intro success
    rw [← back]
    exact (analyze_flip (sameNodes chosen e) success).1
  · intro success
    obtain ⟨-, result⟩ := analyze_flip chosen success
    refine ⟨result, fun path => ?_⟩
    have places : (a.analyze e).result.pathBefore chosen path = e.pathBefore chosen path := by
      rw [← pathBefore_bare, (analyze_ok_iff.1 ⟨success, rfl⟩).1.symm, pathBefore_bare]
    rw [result, at?_flip, places, Option.map_map]
    exact congrArg (Option.map · _) (funext fun n => ty_flip _ n)

/-- Two of three comparisons are turned around, one of them at the root and one inside a cast in it.
The chosen literal is no comparison and stays. -/
theorem comparisons_at_root_and_in_cast_flipped :
    let x : Slot := { id := ⟨1, 0⟩, parent := ⟨1, 0⟩, ty := .int }
    let a : Analyzer := { scope := { number := 1, slots := [x] } }
    let ref : Expr := .slot ⟨x.parent, x.id, some "t.x"⟩
    let inner : Expr := .comparison .ge ref (.literal (.double ⟨0⟩))
    let e : Expr := .comparison .lt (.cast inner .int)
      (.cast (.comparison .ne ref (.literal .null)) .bigInt)
    let chosen : Choice := fun path => path ∈ [[], [0, 0], [0, 0, 1]]
    let f := e.flip chosen
    (a.analyze e).failure = none ∧ (a.analyze f).failure = none ∧
      f.sql = "CAST(t.x != NULL AS BIGINT) > CAST(0.0 <= t.x AS INT)" ∧
      e.pathBefore chosen [1, 0, 0] = [0, 0, 1] ∧
      (((a.analyze f).result.at? [1, 0, 0]).map Expr.ty = some .double) ∧
      f.flip (sameNodes chosen e) = e := by
  intro x a ref inner e chosen f
  have success : (a.analyze e).failure = none := by decide
  obtain ⟨accepted, typed, -, -, -, -, -, back⟩ := flipped_comparisons_unnoticed a e chosen
  refine ⟨success, accepted.2 success, by decide, rfl, ?_, back⟩
  rw [(typed success).2]
  decide

end Analyzer
end ScalarSql

import ScalarSql.Proofs.Analysis.Materialize
import ScalarSql.Proofs.Tree.Exchange

/-!
Substituting in an analysed tree. Nodes above a replacement keep their types; these are still right
if every replacement has the type of its pattern. Then the new tree needs no analysis: it is
accepted as it stands, and analysing it changes nothing (`substitute_fixed`).
-/
namespace ScalarSql

namespace Analyzer

variable {a : Analyzer}

/-- Analysis accepts the tree and leaves it as it is. -/
def Fixes (a : Analyzer) (e : Expr) : Prop :=
  (a.analyze e).failure = none ∧ (a.analyze e).result = e

theorem fixes_iff {e : Expr} :
    a.Fixes e ↔
      a.Settled e ∧ e.DepthAtMost a.limits.maxDepth ∧ e.WidthAtMost a.limits.maxChildren :=
  analyze_ok_iff.trans (and_iff_right rfl)

theorem fixes_result {e : Expr} (success : (a.analyze e).failure = none) :
    a.Fixes (a.analyze e).result :=
  analyze_again success

/-- A tree stays as it is if its children do and its root has the type of its rule. -/
theorem fixes_node_iff {kind : Kind} {children : List Expr} {ty : DataType} :
    a.Fixes (.node kind children ty) ↔
      (Expr.node kind children ty).DepthAtMost a.limits.maxDepth ∧
        children.length ≤ a.limits.maxChildren ∧ a.rule kind children = .ok ty ∧
        ∀ c ∈ children, a.Fixes c := by
  simp only [fixes_iff, settled_node, Expr.widthAtMost_node]
  constructor
  · rintro ⟨⟨rule, settled⟩, deep, narrow, wide⟩
    refine ⟨deep, narrow, rule, ?_⟩
    intro c member
    have shallow := ((Expr.depthAtMost_node.1 deep).2 c member).mono (Nat.sub_le _ _)
    exact ⟨settled c member, shallow, wide c member⟩
  · rintro ⟨deep, narrow, rule, each⟩
    exact ⟨⟨rule, fun c member => (each c member).1⟩, deep, narrow,
      fun c member => (each c member).2.2⟩

/-- Equal trees get equal types. -/
theorem analyze_ty_eq {e f : Expr} (same : (e == f) = true)
    (success : (a.analyze e).failure = none) :
    (a.analyze e).result.ty = (a.analyze f).result.ty :=
  Expr.ty_eq_of_unlabeled ((a.analyze_agree same).result success)

/-- A rule reads the types of the children, and whether the argument of an aggregate holds
another. -/
theorem rule_of_types {kind : Kind} {cs ds : List Expr} {t : DataType}
    (types : ds.map Expr.ty = cs.map Expr.ty)
    (apart : Expr.anyContains .aggregate (cs.take 1) = false →
      Expr.anyContains .aggregate (ds.take 1) = false)
    (typed : a.rule kind cs = .ok t) : a.rule kind ds = .ok t := by
  by_cases aggregate : kind.shape = .aggregate
  · cases kind with
    | aggregate op distinct =>
      obtain ⟨alone, result⟩ := aggregateRule_ok_iff.1 typed
      rw [← types] at result
      exact aggregateRule_ok_iff.2 ⟨apart alone, result⟩
    | _ => cases aggregate
  · exact rule_of_retains rfl (Scope.Retains.refl _) aggregate types typed

/-- The replacement is analysed, without aggregates, and of the type that analysis gives the
pattern, if it gives one. -/
structure KeepsType (a : Analyzer) (pattern replacement : Expr) : Prop where
  plain : replacement.contains .aggregate = false
  fixed : a.Fixes replacement
  type : (a.analyze pattern).failure = none → replacement.ty = (a.analyze pattern).result.ty

theorem KeepsType.of_beq {pattern e r : Expr} (keeps : a.KeepsType pattern r)
    (same : (pattern == e) = true) : a.KeepsType e r where
  plain := keeps.plain
  fixed := keeps.fixed
  type := by
    intro success
    have accepted := (a.analyze_agree same).failure_eq_none_iff.2 success
    rw [keeps.type accepted, analyze_ty_eq same accepted]

/-- Exchanging subtrees of an analysed tree for analysed ones of the same types gives an analysed
tree of the same type. -/
theorem Fixes.exchanged {e r : Expr} (fixed : a.Fixes e)
    (exchanged : Expr.Exchanged a.KeepsType e r) (deep : r.DepthAtMost a.limits.maxDepth) :
    a.Fixes r ∧ r.ty = e.ty := by
  revert fixed deep
  refine Expr.Exchanged.induction ?_ ?_ exchanged
  · intro e r keeps fixed _
    refine ⟨keeps.fixed, ?_⟩
    rw [keeps.type fixed.1, fixed.2]
  · intro kind cs ds ty inner children fixed deep
    obtain ⟨-, narrow, rule, each⟩ := fixes_node_iff.1 fixed
    have kept : List.Forall₂ (fun c d => a.Fixes d ∧ d.ty = c.ty) cs ds := by
      refine forall₂_imp_of_mem (fun c member d inside keeps => ?_) children
      have shallow := ((Expr.depthAtMost_node.1 deep).2 d inside).mono (Nat.sub_le _ _)
      exact keeps (each c member) shallow
    have types : ds.map Expr.ty = cs.map Expr.ty :=
      map_eq_map_iff_forall₂.2 (kept.imp fun _ _ keeps => keeps.2).flip
    have apart := Expr.Exchanged.anyContains_take_eq_false (fun _ _ keeps => keeps.plain) inner 1
    refine ⟨fixes_node_iff.2 ⟨deep, children.length_eq ▸ narrow, ?_, ?_⟩, rfl⟩
    · exact rule_of_types types apart rule
    · intro d inside
      obtain ⟨c, -, keeps⟩ := exists_mem_of_forall₂ kept inside
      exact keeps.1

/-- Where every replacement has the type of its pattern, substituting in an analysed tree gives an
analysed tree of the same type, as long as it is not too deep. -/
theorem substitute_fixed {a : Analyzer} {e : Expr} {m : Substitution}
    (success : (a.analyze e).failure = none) (keeps : ∀ p ∈ m.pairs, a.KeepsType p.1 p.2) :
    let typed := (a.analyze e).result
    ∀ new, new = typed.substitute m ∨ new = typed.copyWith (some m) →
      new.DepthAtMost a.limits.maxDepth →
      (a.analyze new).failure = none ∧ (a.analyze new).result = new ∧ new.ty = typed.ty := by
  intro typed new made deep
  have rewritten : new = typed.substitute m := by
    rw [Expr.copyWith_some, or_self] at made
    exact made
  have exchanged : Expr.Exchanged a.KeepsType typed new := by
    rw [rewritten]
    refine Expr.exchanged_rewrite ?_ typed
    intro n r found
    obtain ⟨put, member, same, rfl⟩ := Substitution.exists_pair_of_get? found
    exact (keeps put member).of_beq same
  obtain ⟨⟨accepted, stays⟩, type⟩ := (fixes_result success).exchanged exchanged deep
  exact ⟨accepted, stays, type⟩

/-- Of two patterns, one inside the other, each is met where the other is not; a third is refused by
analysis, so its replacement may have any type. -/
theorem overlapping_patterns_keep_types :
    let x : Slot := { id := ⟨1, 0⟩, parent := ⟨1, 0⟩, ty := .int }
    let y : Slot := { id := ⟨1, 1⟩, parent := ⟨1, 0⟩, ty := .int }
    let a : Analyzer := { scope := { number := 1, slots := [x, y] } }
    let one : Expr := .literal (.int 1)
    let next : Expr := .arithmetic .add (.slot ⟨x.parent, x.id, some "x"⟩) one
    let e : Expr := .comparison .gt (.aggregate .sum next false) (.slot ⟨x.parent, x.id, none⟩)
    let other : Expr := .node (.slot ⟨y.parent, y.id, some "y"⟩) [] .int
    let m : Substitution := ⟨[(.slot ⟨x.parent, x.id, none⟩, other), (next, other),
      (.not one, .node (.literal .null) [] .null)]⟩
    let new := (a.analyze e).result.substitute m
    (∀ p ∈ m.pairs, a.KeepsType p.1 p.2) ∧ (a.analyze new).failure = none ∧
      (a.analyze new).result = new ∧ new.types = [.boolean, .bigInt, .int, .int] ∧
      new.sql = "SUM(y) > y" := by
  intro x y a one next e other m new
  have keeps : ∀ p ∈ m.pairs, a.KeepsType p.1 p.2 := by
    simp only [m, List.forall_mem_cons, List.not_mem_nil, false_implies, implies_true, and_true]
    refine ⟨⟨by decide, ⟨by decide, rfl⟩, fun _ => by decide⟩,
      ⟨by decide, ⟨by decide, rfl⟩, fun _ => by decide⟩,
      ⟨by decide, ⟨by decide, rfl⟩, fun accepted => absurd accepted (by decide)⟩⟩
  have success : (a.analyze e).failure = none := by decide
  have deep : new.DepthAtMost a.limits.maxDepth :=
    (analyze_ok_iff.1 ⟨(by decide : (a.analyze new).failure = none), rfl⟩).2.2.1
  obtain ⟨accepted, stays, -⟩ := substitute_fixed success keeps new (Or.inl rfl) deep
  exact ⟨keeps, accepted, stays, by decide, by decide⟩

end Analyzer
end ScalarSql

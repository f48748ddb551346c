import ScalarSql.Proofs.Analysis.Success
import ScalarSql.Proofs.Tree.Congruence

/-!
Analysis of equal trees. Two walks over equal trees ask the functions the same questions, fail for
the same reason up to the SQL text shown in it, and on success leave the same types at the same
places. So `==` is an equivalence that no operation on trees but their rendering looks behind.
-/
namespace ScalarSql

/-- The failure without the SQL text it shows. -/
def AnalysisError.unrendered : AnalysisError → AnalysisError
  | .incompatible _ left right => .incompatible "" left right
  | .nestedAggregate _ => .nestedAggregate ""
  | e => e

/-- Two walks that differ at most in a text shown. What they leave is compared only on success. -/
structure Outcome.Agree {α : Type} (alike : α → α → Prop) (o p : Outcome α) : Prop where
  calls : o.calls = p.calls
  failure : o.failure.map AnalysisError.unrendered = p.failure.map AnalysisError.unrendered
  result : o.failure = none → alike o.result p.result

theorem Outcome.Agree.failure_eq_none_iff {α : Type} {alike : α → α → Prop} {o p : Outcome α}
    (agree : Agree alike o p) : o.failure = none ↔ p.failure = none := by
  rw [← Option.map_eq_none_iff, agree.failure, Option.map_eq_none_iff]

/-- Trees that differ in labels only. -/
def Expr.Relabeled (a b : Expr) : Prop := a.unlabeled = b.unlabeled

theorem Expr.map_ty_of_relabeled {cs ds : List Expr} (alike : List.Forall₂ Relabeled cs ds) :
    cs.map ty = ds.map ty :=
  map_eq_map_iff_forall₂.2 (alike.imp fun _ _ => ty_eq_of_unlabeled)

theorem Expr.anyContains_of_relabeled (shape : Shape) {cs ds : List Expr}
    (alike : List.Forall₂ Relabeled cs ds) : anyContains shape cs = anyContains shape ds := by
  rw [anyContains_eq_any, anyContains_eq_any]
  exact any_eq_of_forall₂ (alike.imp fun _ _ same =>
    contains_congr shape (beq_of_unlabeled_eq same))

theorem Kind.calls_congr {k l : Kind} {cs ds : List Expr} (kinds : k.unlabeled = l.unlabeled)
    (types : cs.map Expr.ty = ds.map Expr.ty) : k.calls cs = l.calls ds := by
  rcases Kind.unlabeled_eq_cases kinds with rfl | ⟨r, s, rfl, rfl, -⟩
  · cases k <;> simp [Kind.calls, types]
  · rfl

namespace Analyzer

/-- A rule reads the types of the children, looks for aggregates in them, and shows them. -/
theorem rule_congr (a : Analyzer) {k l : Kind} {cs ds : List Expr}
    (kinds : k.unlabeled = l.unlabeled) (alike : List.Forall₂ Expr.Relabeled cs ds) :
    (a.rule k cs).mapError AnalysisError.unrendered =
      (a.rule l ds).mapError AnalysisError.unrendered := by
  have types := Expr.map_ty_of_relabeled alike
  have nested : Expr.anyContains .aggregate (cs.take 1) =
      Expr.anyContains .aggregate (ds.take 1) :=
    Expr.anyContains_of_relabeled .aggregate (List.forall₂_take 1 alike)
  rcases Kind.unlabeled_eq_cases kinds with rfl | ⟨r, s, rfl, rfl, -, slots⟩
  · unfold rule
    rw [types, nested]
    cases k with
    | comparison op => dsimp only; split <;> rfl
    | membership negated => dsimp only; split <;> rfl
    | range negated => dsimp only; split <;> rfl
    | aggregate op distinct => dsimp only; split <;> rfl
    | _ => rfl
  · unfold rule
    simp only [slots]

/-- Equal trees that are settled have the same types. -/
theorem relabeled_of_settled {a : Analyzer} {e f : Expr} (same : (e == f) = true)
    (left : a.Settled e) (right : a.Settled f) : e.Relabeled f := by
  revert left right
  refine Expr.beq_induction (fun k l cs ds s t kinds _ below left right => ?_) same
  obtain ⟨ruleLeft, settledLeft⟩ := settled_node.1 left
  obtain ⟨ruleRight, settledRight⟩ := settled_node.1 right
  have alike : List.Forall₂ Expr.Relabeled cs ds :=
    forall₂_imp_of_mem (fun c inside d inside' agree =>
      agree (settledLeft c inside) (settledRight d inside')) below
  have rules := a.rule_congr kinds alike
  rw [ruleLeft, ruleRight] at rules
  simp only [Except.mapError, Except.ok.injEq] at rules
  exact Expr.node_unlabeled_eq_iff.2 ⟨kinds, alike, rules⟩

/-- Lists are walked alike if their trees are, one by one. -/
theorem walkAll_agree (a : Analyzer) {es fs : List Expr}
    (each : List.Forall₂
      (fun e f => ∀ depth, (a.walk depth e).Agree Expr.Relabeled (a.walk depth f)) es fs)
    (depth : Nat) :
    (a.walkAll depth es).Agree (List.Forall₂ Expr.Relabeled) (a.walkAll depth fs) := by
  induction each with
  | nil => exact ⟨rfl, rfl, fun _ => .nil⟩
  | @cons e f es fs first _ ih =>
    have head := first depth
    rw [walkAll_cons, walkAll_cons]
    cases left : (a.walk depth e).failure with
    | some failure =>
      cases right : (a.walk depth f).failure with
      | none => simp [head.failure_eq_none_iff.2 right] at left
      | some failure' =>
        have reasons := head.failure
        rw [left, right] at reasons
        simp only [left, right]
        exact ⟨head.calls, reasons, by simp⟩
    | none =>
      have right := head.failure_eq_none_iff.1 left
      simp only [left, right]
      refine ⟨by simp only [head.calls, ih.calls], ih.failure, ?_⟩
      intro success
      exact .cons (head.result left) (ih.result success)

/-- The types that the trees bring along take no part: each is overwritten before it is read. -/
theorem walk_agree (a : Analyzer) {e f : Expr} (same : (e == f) = true) (depth : Nat) :
    (a.walk depth e).Agree Expr.Relabeled (a.walk depth f) := by
  revert depth
  refine Expr.beq_induction (fun k l cs ds s t kinds _ below depth => ?_) same
  have children := walkAll_agree a below (depth + 1)
  rw [walk_node, walk_node, below.length_eq]
  cases a.limits.violation? depth ds.length with
  | some violation => exact ⟨rfl, rfl, by simp⟩
  | none =>
    cases left : (a.walkAll (depth + 1) cs).failure with
    | some failure =>
      cases right : (a.walkAll (depth + 1) ds).failure with
      | none => simp [children.failure_eq_none_iff.2 right] at left
      | some failure' =>
        have reasons := children.failure
        rw [left, right] at reasons
        simp only [left, right]
        exact ⟨children.calls, reasons, by simp⟩
    | none =>
      have right := children.failure_eq_none_iff.1 left
      have alike := children.result left
      have calls := Kind.calls_congr kinds (Expr.map_ty_of_relabeled alike)
      have rules := a.rule_congr kinds alike
      simp only [left, right]
      cases ruleLeft : a.rule k (a.walkAll (depth + 1) cs).result with
      | ok resolved =>
        cases ruleRight : a.rule l (a.walkAll (depth + 1) ds).result with
        | ok resolved' =>
          simp only [ruleLeft, ruleRight, Except.mapError, Except.ok.injEq] at rules
          refine ⟨by simp only [children.calls, calls], rfl, fun _ => ?_⟩
          exact Expr.node_unlabeled_eq_iff.2 ⟨kinds, alike, rules⟩
        | error reason' => simp [ruleLeft, ruleRight, Except.mapError] at rules
      | error reason =>
        cases ruleRight : a.rule l (a.walkAll (depth + 1) ds).result with
        | ok resolved' => simp [ruleLeft, ruleRight, Except.mapError] at rules
        | error reason' =>
          simp only [ruleLeft, ruleRight, Except.mapError, Except.error.injEq] at rules
          refine ⟨by simp only [children.calls, calls], ?_, by simp⟩
          simp only [Option.map_some, rules]

theorem analyze_agree (a : Analyzer) {e f : Expr} (same : (e == f) = true) :
    (a.analyze e).Agree Expr.Relabeled (a.analyze f) :=
  a.walk_agree same 1

/-- A tree that analysis has accepted is accepted again and stays as it is. -/
theorem analyze_again {a : Analyzer} {e : Expr} (success : (a.analyze e).failure = none) :
    (a.analyze (a.analyze e).result).failure = none ∧
      (a.analyze (a.analyze e).result).result = (a.analyze e).result := by
  obtain ⟨kinds, settled, -, -⟩ := analyze_ok_iff.1 ⟨success, rfl⟩
  have accepted : (a.analyze (a.analyze e).result).failure = none :=
    (a.analyze_agree (Expr.beq_of_bare_eq kinds)).failure_eq_none_iff.1 success
  obtain ⟨-, -, deep, wide⟩ := analyze_ok_iff.1 ⟨accepted, rfl⟩
  exact analyze_ok_iff.2 ⟨rfl, settled, deep, wide⟩

end Analyzer

/-- What the operations on trees, but for their rendering, say of two trees that they cannot tell
apart. -/
structure Expr.Indistinguishable (a b : Expr) : Prop where
  replaced (m : Substitution) : m.get? a = m.get? b
  substituted (m : Substitution) : (a.substitute m == b.substitute m) = true
  bound (tuples : List TupleId) : a.boundBy tuples = b.boundBy tuples
  constant : a.isConstant = b.isConstant
  contained (shape : Shape) : a.contains shape = b.contains shape
  referenced (refs : References) : a.references refs = b.references refs
  collected (shape : Shape) :
    List.Forall₂ (fun c d => (c == d) = true) (a.collect shape) (b.collect shape)
  accepted (an : Analyzer) : (an.analyze a).failure = none ↔ (an.analyze b).failure = none
  refused (an : Analyzer) :
    (an.analyze a).failure.map AnalysisError.unrendered =
      (an.analyze b).failure.map AnalysisError.unrendered
  asked (an : Analyzer) : (an.analyze a).calls = (an.analyze b).calls
  typed (an : Analyzer) (path : List Nat) : (an.analyze a).failure = none →
    ((an.analyze a).result.at? path).map ty = ((an.analyze b).result.at? path).map ty

theorem Expr.indistinguishable_of_beq {a b : Expr} (same : (a == b) = true) :
    a.Indistinguishable b where
  replaced m := m.get?_congr same
  substituted m := substitute_congr m same
  bound tuples := boundBy_congr tuples same
  constant := isConstant_congr same
  contained shape := contains_congr shape same
  referenced refs := references_congr same refs
  collected shape := collect_congr shape same
  accepted an := (an.analyze_agree same).failure_eq_none_iff
  refused an := (an.analyze_agree same).failure
  asked an := (an.analyze_agree same).calls
  typed an path success := map_ty_at?_of_unlabeled ((an.analyze_agree same).result success) path

/-- Equality of trees is an equivalence, equal trees cannot be told apart, and so types from an
earlier analysis have no part in a later one: analysing again changes nothing. -/
theorem Expr.beq_equivalence_and_congruence :
    Equivalence (fun a b : Expr => (a == b) = true) ∧
    (∀ a b : Expr, (a == b) = true → a.Indistinguishable b) ∧
    ∀ (an : Analyzer) (e : Expr), (an.analyze e).failure = none →
      (an.analyze (an.analyze e).result).failure = none ∧
        (an.analyze (an.analyze e).result).result = (an.analyze e).result :=
  ⟨⟨beq_refl, beq_symm, beq_trans⟩, fun _ _ => indistinguishable_of_beq,
    fun _ _ => Analyzer.analyze_again⟩

/-- Two labels of one slot, one of them with a stale type, in a comparison that analysis refuses:
the failures differ in the text shown only. -/
theorem Expr.relabeled_comparison_refused_alike :
    let paid : Slot := { id := ⟨1, 0⟩, parent := ⟨1, 0⟩, ty := .boolean }
    let an : Analyzer := { scope := { number := 1, slots := [paid] } }
    let compared (label : Option String) (ty : DataType) : Expr :=
      node (.comparison .lt) [node (.slot ⟨paid.parent, paid.id, label⟩) [] ty,
        node (.literal (.double ⟨0x7ff8000000000001⟩)) [] .invalid] ty
    let a := compared (some "paid") .double
    let b := compared none .invalid
    (a == b) = true ∧ (an.analyze a).failure ≠ (an.analyze b).failure ∧
      (an.analyze a).failure.map AnalysisError.unrendered =
        (an.analyze b).failure.map AnalysisError.unrendered := by
  intro paid an compared a b
  have same : (a == b) = true := by decide
  have texts : (an.analyze a).failure ≠ (an.analyze b).failure := by decide
  exact ⟨same, texts, (beq_equivalence_and_congruence.2.1 a b same).refused an⟩

end ScalarSql

import ScalarSql.Analysis.Walk
import ScalarSql.Proofs.Tree.Equality

/-!
When a walk succeeds and what it leaves. A tree is settled if every node has the type that the rule
for its kind gives for its children. A walk succeeds exactly on the trees within the limits whose
types can be chosen so that the tree is settled, and it leaves that choice, whatever types were
there before (`analyze_ok_iff`, `analyzeAll_ok_iff`).
-/
namespace ScalarSql

theorem Limits.violation?_eq_none_iff {limits : Limits} {depth children : Nat} :
    limits.violation? depth children = none ↔
      depth ≤ limits.maxDepth ∧ children ≤ limits.maxChildren := by
  unfold violation?
  split
  · simp
    omega
  · split
    · simp
      omega
    · simp
      omega

namespace Analyzer

/-- Every node has the type that its rule gives for its children. -/
def Settled (a : Analyzer) (e : Expr) : Prop := ∀ n ∈ e.nodes, a.rule n.kind n.children = .ok n.ty

theorem settled_node {a : Analyzer} {kind : Kind} {children : List Expr} {ty : DataType} :
    a.Settled (.node kind children ty) ↔
      a.rule kind children = .ok ty ∧ ∀ c ∈ children, a.Settled c :=
  Expr.forall_nodes_node

theorem settled_of_mem_nodes {a : Analyzer} {e n : Expr} (settled : a.Settled e)
    (inside : n ∈ e.nodes) : a.Settled n :=
  fun m below => settled m (Expr.mem_nodes_trans inside below)

/-- A list is walked to its end if every tree of it is. -/
theorem walkAll_failure_eq_none_iff {a : Analyzer} {depth : Nat} {es : List Expr} :
    (a.walkAll depth es).failure = none ↔ ∀ e ∈ es, (a.walk depth e).failure = none := by
  induction es with
  | nil => simp [walkAll_nil]
  | cons e es ih =>
    rw [walkAll_cons, List.forall_mem_cons, ← ih]
    cases first : (a.walk depth e).failure <;> simp [first]

theorem walkAll_result_of_success {a : Analyzer} {depth : Nat} {es : List Expr}
    (success : (a.walkAll depth es).failure = none) :
    (a.walkAll depth es).result = es.map fun e => (a.walk depth e).result := by
  induction es with
  | nil => rfl
  | cons e es ih =>
    have each := walkAll_failure_eq_none_iff.1 success
    have rest : (a.walkAll depth es).failure = none :=
      walkAll_failure_eq_none_iff.2 fun d member => each d (List.mem_cons_of_mem e member)
    simp only [walkAll_cons, each e (by simp), ih rest, List.map_cons]

/-- A node is walked to its end if its limits hold, its children are, and its rule gives a type for
what they have become. -/
theorem walk_node_success_iff {a : Analyzer} {depth : Nat} {kind : Kind} {children : List Expr}
    {ty : DataType} {t : Expr} :
    ((a.walk depth (.node kind children ty)).failure = none ∧
        (a.walk depth (.node kind children ty)).result = t) ↔
      (depth ≤ a.limits.maxDepth ∧ children.length ≤ a.limits.maxChildren) ∧
        (∀ c ∈ children, (a.walk (depth + 1) c).failure = none) ∧
        ∃ resolved, a.rule kind (children.map fun c => (a.walk (depth + 1) c).result) =
            .ok resolved ∧
          t = .node kind (children.map fun c => (a.walk (depth + 1) c).result) resolved := by
  rw [walk_node, ← Limits.violation?_eq_none_iff, ← walkAll_failure_eq_none_iff]
  cases a.limits.violation? depth children.length with
  | some e => simp
  | none =>
    cases below : (a.walkAll (depth + 1) children).failure with
    | some e => simp [below]
    | none =>
      rw [← walkAll_result_of_success below]
      simp only [below]
      cases a.rule kind (a.walkAll (depth + 1) children).result with
      | error e => simp
      | ok resolved => simp [eq_comm]

theorem walkAll_result_bare_of_each {a : Analyzer} {es : List Expr}
    (each : ∀ e ∈ es, ∀ depth, (a.walk depth e).result.bare = e.bare) (depth : Nat) :
    List.Forall₂ (fun c d => c.bare = d.bare) (a.walkAll depth es).result es := by
  induction es with
  | nil => exact .nil
  | cons e es ih =>
    have first := each e (by simp) depth
    have rest := ih fun c member => each c (List.mem_cons_of_mem e member)
    simp only [walkAll_cons]
    cases (a.walk depth e).failure with
    | some failure => exact List.forall₂_cons.2 ⟨first, List.forall₂_same.2 fun _ _ => rfl⟩
    | none => exact List.forall₂_cons.2 ⟨first, rest⟩

/-- Analysis changes types only. -/
theorem walk_result_bare (a : Analyzer) (depth : Nat) (e : Expr) :
    (a.walk depth e).result.bare = e.bare := by
  induction e using Expr.children_induction generalizing depth with
  | node kind children ty ih =>
    have below := walkAll_result_bare_of_each ih (depth + 1)
    rw [walk_node]
    cases a.limits.violation? depth children.length with
    | some e => rfl
    | none =>
      cases failed : (a.walkAll (depth + 1) children).failure with
      | some e => simpa only [failed] using Expr.node_bare_eq_iff.2 ⟨rfl, below⟩
      | none =>
        simp only [failed]
        cases a.rule kind (a.walkAll (depth + 1) children).result with
        | ok resolved => exact Expr.node_bare_eq_iff.2 ⟨rfl, below⟩
        | error e => exact Expr.node_bare_eq_iff.2 ⟨rfl, below⟩

/-- A walk that succeeds has met no limit and leaves a settled tree. -/
theorem walk_success {a : Analyzer} {depth : Nat} {e : Expr}
    (success : (a.walk depth e).failure = none) :
    e.DepthAtMost (a.limits.maxDepth + 1 - depth) ∧ e.WidthAtMost a.limits.maxChildren ∧
      a.Settled (a.walk depth e).result := by
  induction e using Expr.children_induction generalizing depth with
  | node kind children ty ih =>
    obtain ⟨⟨deep, wide⟩, each, resolved, rule, left⟩ := walk_node_success_iff.1 ⟨success, rfl⟩
    refine ⟨Expr.depthAtMost_node.2 ⟨by omega, ?_⟩, Expr.widthAtMost_node.2 ⟨wide, ?_⟩, ?_⟩
    · intro c member
      have bounded := (ih c member (each c member)).1
      rwa [show a.limits.maxDepth + 1 - depth - 1 = a.limits.maxDepth + 1 - (depth + 1) by omega]
    · intro c member
      exact (ih c member (each c member)).2.1
    · rw [left]
      refine settled_node.2 ⟨rule, ?_⟩
      intro c member
      obtain ⟨d, inside, rfl⟩ := List.mem_map.1 member
      exact (ih d inside (each d inside)).2.2

/-- A settled tree is what a walk within the limits leaves of any tree of its kinds. -/
theorem walk_of_settled {a : Analyzer} {e t : Expr} {depth : Nat} (kinds : e.bare = t.bare)
    (settled : a.Settled t) (deep : e.DepthAtMost (a.limits.maxDepth + 1 - depth))
    (wide : e.WidthAtMost a.limits.maxChildren) :
    (a.walk depth e).failure = none ∧ (a.walk depth e).result = t := by
  induction e using Expr.children_induction generalizing t depth with
  | node kind children ty ih =>
    obtain ⟨kind', typed, ty'⟩ := t
    obtain ⟨rfl, below⟩ := Expr.node_bare_eq_iff.1 kinds
    obtain ⟨positive, deepBelow⟩ := Expr.depthAtMost_node.1 deep
    obtain ⟨narrow, wideBelow⟩ := Expr.widthAtMost_node.1 wide
    obtain ⟨rule, settledBelow⟩ := settled_node.1 settled
    have each : List.Forall₂
        (fun c t => (a.walk (depth + 1) c).failure = none ∧ (a.walk (depth + 1) c).result = t)
        children typed := by
      refine forall₂_imp_of_mem (fun c member t inside same => ?_) below
      refine ih c member same (settledBelow t inside) ?_ (wideBelow c member)
      have bounded := deepBelow c member
      rwa [show a.limits.maxDepth + 1 - depth - 1 = a.limits.maxDepth + 1 - (depth + 1) by
        omega] at bounded
    obtain ⟨succeed, agree⟩ := (List.forall₂_and_left _ _).1 each
    have results : children.map (fun c => (a.walk (depth + 1) c).result) = typed :=
      map_eq_iff_forall₂.2 agree
    refine walk_node_success_iff.2 ⟨⟨by omega, narrow⟩, succeed, ty', ?_, ?_⟩
    · rw [results]
      exact rule
    · rw [results]

/-- Analysis succeeds with `t` exactly if `t` has the kinds of the tree, is settled, and is within
the limits. -/
theorem analyze_ok_iff {a : Analyzer} {e t : Expr} :
    ((a.analyze e).failure = none ∧ (a.analyze e).result = t) ↔
      e.bare = t.bare ∧ a.Settled t ∧ e.DepthAtMost a.limits.maxDepth ∧
        e.WidthAtMost a.limits.maxChildren := by
  constructor
  · rintro ⟨success, rfl⟩
    obtain ⟨deep, wide, settled⟩ := walk_success success
    exact ⟨(walk_result_bare a 1 e).symm, settled, deep, wide⟩
  · rintro ⟨kinds, settled, deep, wide⟩
    exact walk_of_settled kinds settled deep wide

/-- A tree is accepted if its children are and the rule of its root has a type for what they
become. -/
theorem analyze_node_ok_iff {a : Analyzer} {kind : Kind} {cs : List Expr} {ty : DataType}
    {t : Expr} :
    ((a.analyze (.node kind cs ty)).failure = none ∧ (a.analyze (.node kind cs ty)).result = t) ↔
      ((Expr.node kind cs ty).DepthAtMost a.limits.maxDepth ∧ cs.length ≤ a.limits.maxChildren) ∧
        (∀ c ∈ cs, (a.analyze c).failure = none) ∧
        ∃ resolved, a.rule kind (cs.map fun c => (a.analyze c).result) = .ok resolved ∧
          t = .node kind (cs.map fun c => (a.analyze c).result) resolved := by
  constructor
  · intro success
    obtain ⟨kinds, settled, deep, wide⟩ := analyze_ok_iff.1 success
    obtain ⟨kind', typed, resolved⟩ := t
    obtain ⟨rfl, below⟩ := Expr.node_bare_eq_iff.1 kinds
    obtain ⟨rule, settledBelow⟩ := settled_node.1 settled
    obtain ⟨narrow, wideBelow⟩ := Expr.widthAtMost_node.1 wide
    have each : List.Forall₂ (fun c t => (a.analyze c).failure = none ∧ (a.analyze c).result = t)
        cs typed := by
      refine forall₂_imp_of_mem (fun c member t inside same => ?_) below
      have shallow := ((Expr.depthAtMost_node.1 deep).2 c member).mono (Nat.sub_le _ _)
      exact analyze_ok_iff.2 ⟨same, settledBelow t inside, shallow, wideBelow c member⟩
    obtain ⟨succeed, agree⟩ := (List.forall₂_and_left _ _).1 each
    rw [map_eq_iff_forall₂.2 agree]
    exact ⟨⟨deep, narrow⟩, succeed, resolved, rule, rfl⟩
  · rintro ⟨⟨deep, narrow⟩, succeed, resolved, rule, rfl⟩
    have each := fun c member => analyze_ok_iff.1 ⟨succeed c member, rfl⟩
    refine analyze_ok_iff.2 ⟨?_, ?_, deep, ?_⟩
    · refine Expr.node_bare_eq_iff.2 ⟨rfl, List.forall₂_map_right_iff.2 ?_⟩
      exact List.forall₂_same.2 fun c member => (each c member).1
    · refine settled_node.2 ⟨rule, List.forall_mem_map.2 ?_⟩
      exact fun c member => (each c member).2.1
    · exact Expr.widthAtMost_node.2 ⟨narrow, fun c member => (each c member).2.2.2⟩

theorem analyzeAll_ok_iff {a : Analyzer} {es ts : List Expr} :
    ((a.analyzeAll es).failure = none ∧ (a.analyzeAll es).result = ts) ↔
      List.Forall₂ (fun e t => (a.analyze e).failure = none ∧ (a.analyze e).result = t) es ts := by
  rw [List.forall₂_and_left]
  constructor
  · rintro ⟨success, rfl⟩
    refine ⟨walkAll_failure_eq_none_iff.1 success, ?_⟩
    rw [analyzeAll, walkAll_result_of_success success, List.forall₂_map_right_iff]
    exact List.forall₂_same.2 fun _ _ => rfl
  · rintro ⟨each, agree⟩
    have success : (a.analyzeAll es).failure = none := walkAll_failure_eq_none_iff.2 each
    refine ⟨success, ?_⟩
    rw [analyzeAll, walkAll_result_of_success success]
    exact map_eq_iff_forall₂.2 agree

end Analyzer
end ScalarSql

import ScalarSql.Expr.Build
import ScalarSql.Expr.Rewrite
import ScalarSql.Proofs.Tree.Equality

/-!
What rewriting leaves of a tree is found by induction along the rewriting (`rewrite_induction`).
Each node of the new tree comes from a node that was kept or from a replacement. Rewriting with
replacements that have no children only cuts a tree back: a path through the new tree is a path
through the old one, and leads to what the node there has become (`at?_rewrite`). So the new tree is
no deeper and no wider than the old one. A substitution that passes on the type of what it replaces
(`retyped`) keeps the type of every root.
-/
namespace ScalarSql
namespace Expr

variable {replacement? : Expr → Option Expr}

/-- Induction over a rewriting. A tree with a replacement gives way to it; any other keeps its root,
and the hypothesis is there for each child. -/
@[elab_as_elim]
theorem rewrite_induction {motive : Expr → Expr → Prop}
    (replaced : ∀ e r, replacement? e = some r → motive e r)
    (kept : ∀ kind children ty, replacement? (node kind children ty) = none →
      (∀ c ∈ children, motive c (c.rewrite replacement?)) →
      motive (node kind children ty) (node kind (children.map (rewrite replacement?)) ty))
    (e : Expr) : motive e (e.rewrite replacement?) := by
  induction e using children_induction with
  | node kind children ty ih =>
    cases found : replacement? (node kind children ty) with
    | some r =>
      rw [rewrite_of_some found]
      exact replaced _ r found
    | none =>
      rw [rewrite_of_none found]
      exact kept kind children ty found ih

/-- A node of the new tree is what a node without a replacement has become, or lies in one of the
replacements. -/
theorem mem_nodes_rewrite_cases {e n : Expr} (inside : n ∈ (e.rewrite replacement?).nodes) :
    (∃ t ∈ e.nodes, replacement? t = none ∧ n = t.rewrite replacement?) ∨
      ∃ t ∈ e.nodes, ∃ r, replacement? t = some r ∧ n ∈ r.nodes := by
  revert inside
  refine rewrite_induction ?_ ?_ e
  · intro e r found inside
    exact Or.inr ⟨e, self_mem_nodes e, r, found, inside⟩
  · intro kind children ty missing below inside
    rcases mem_nodes_node.1 inside with rfl | ⟨d, member, deeper⟩
    · exact Or.inl ⟨_, self_mem_nodes _, missing, (rewrite_of_none missing).symm⟩
    · obtain ⟨c, listed, rfl⟩ := List.mem_map.1 member
      refine (below c listed deeper).imp ?_ ?_
      · rintro ⟨t, within, became⟩
        exact ⟨t, mem_nodes_child listed within, became⟩
      · rintro ⟨t, within, there⟩
        exact ⟨t, mem_nodes_child listed within, there⟩

/-- Every replacement is a leaf. -/
def Leaves (replacement? : Expr → Option Expr) : Prop :=
  ∀ e r, replacement? e = some r → r.children = []

theorem at?_rewrite (leaves : Leaves replacement?) {e n : Expr} {path : List Nat}
    (leads : (e.rewrite replacement?).at? path = some n) :
    ∃ t, e.at? path = some t ∧ n = t.rewrite replacement? := by
  induction path generalizing e with
  | nil =>
    cases leads
    exact ⟨e, rfl, rfl⟩
  | cons i path ih =>
    obtain ⟨c, place, deeper⟩ := at?_cons_eq_some.1 leads
    cases found : replacement? e with
    | some r =>
      rw [rewrite_of_some found, leaves e r found] at place
      cases place
    | none =>
      obtain ⟨kind, children, ty⟩ := e
      rw [rewrite_of_none found, children_node, List.getElem?_map] at place
      obtain ⟨d, inside, rfl⟩ := Option.map_eq_some_iff.1 place
      obtain ⟨t, leadsBelow, became⟩ := ih deeper
      exact ⟨t, at?_cons_eq_some.2 ⟨d, inside, leadsBelow⟩, became⟩

theorem mem_nodes_rewrite (leaves : Leaves replacement?) {e n : Expr}
    (inside : n ∈ (e.rewrite replacement?).nodes) :
    ∃ t ∈ e.nodes, n = t.rewrite replacement? := by
  obtain ⟨path, leads⟩ := mem_nodes_iff_at?.1 inside
  obtain ⟨t, leadsBefore, became⟩ := at?_rewrite leaves leads
  exact ⟨t, mem_nodes_iff_at?.2 ⟨path, leadsBefore⟩, became⟩

theorem children_rewrite_length_le (leaves : Leaves replacement?) (e : Expr) :
    (e.rewrite replacement?).children.length ≤ e.children.length := by
  cases found : replacement? e with
  | some r =>
    rw [rewrite_of_some found, leaves e r found]
    exact Nat.zero_le _
  | none =>
    obtain ⟨kind, children, ty⟩ := e
    rw [rewrite_of_none found]
    exact Nat.le_of_eq (List.length_map _)

theorem depthAtMost_rewrite (leaves : Leaves replacement?) {n : Nat} {e : Expr}
    (deep : e.DepthAtMost n) : (e.rewrite replacement?).DepthAtMost n := by
  intro path sub leads
  obtain ⟨t, leadsBefore, -⟩ := at?_rewrite leaves leads
  exact deep path t leadsBefore

theorem widthAtMost_rewrite (leaves : Leaves replacement?) {n : Nat} {e : Expr}
    (wide : e.WidthAtMost n) : (e.rewrite replacement?).WidthAtMost n := by
  intro sub inside
  obtain ⟨t, before, rfl⟩ := mem_nodes_rewrite leaves inside
  exact Nat.le_trans (children_rewrite_length_le leaves t) (wide t before)

/-- Replacements that differ in types give trees that differ in types. -/
theorem rewrite_bare_congr {other? : Expr → Option Expr}
    (alike : ∀ e, (replacement? e).map bare = (other? e).map bare) (e : Expr) :
    (e.rewrite replacement?).bare = (e.rewrite other?).bare := by
  induction e using children_induction with
  | node kind children ty ih =>
    have root := alike (node kind children ty)
    cases left : replacement? (node kind children ty) with
    | some r =>
      cases right : other? (node kind children ty) with
      | none => simp [left, right] at root
      | some r' =>
        rw [rewrite_of_some left, rewrite_of_some right]
        simpa [left, right] using root
    | none =>
      cases right : other? (node kind children ty) with
      | some r' => simp [left, right] at root
      | none =>
        rw [rewrite_of_none left, rewrite_of_none right]
        refine node_bare_eq_iff.2 ⟨rfl, ?_⟩
        rw [List.forall₂_map_left_iff, List.forall₂_map_right_iff]
        exact List.forall₂_same.2 ih

end Expr

namespace Expr

variable {m : Substitution}

theorem substitute_of_some {e r : Expr} (found : m.get? e = some r) : e.substitute m = r :=
  rewrite_of_some found

theorem substitute_of_none {kind : Kind} {children : List Expr} {ty : DataType}
    (missing : m.get? (node kind children ty) = none) :
    (node kind children ty).substitute m = node kind (children.map (substitute m)) ty :=
  rewrite_of_none missing

@[elab_as_elim]
theorem substitute_induction {motive : Expr → Expr → Prop}
    (replaced : ∀ e r, m.get? e = some r → motive e r)
    (kept : ∀ kind children ty, m.get? (node kind children ty) = none →
      (∀ c ∈ children, motive c (c.substitute m)) →
      motive (node kind children ty) (node kind (children.map (substitute m)) ty))
    (e : Expr) : motive e (e.substitute m) :=
  show motive e (e.rewrite m.get?) from rewrite_induction replaced kept e

end Expr

namespace Substitution

variable {m : Substitution} {e r : Expr}

theorem exists_pair_of_get? (found : m.get? e = some r) :
    ∃ put ∈ m.pairs, (put.1 == e) = true ∧ put.2 = r := by
  obtain ⟨put, first, rfl⟩ := Option.map_eq_some_iff.1 found
  have same : (put.1 == e) = true := by simpa using List.find?_some first
  exact ⟨put, List.mem_of_find?_eq_some first, same, rfl⟩

theorem mem_replacements (found : m.get? e = some r) : r ∈ m.replacements := by
  obtain ⟨put, member, -, rfl⟩ := exists_pair_of_get? found
  exact List.mem_map_of_mem member

theorem get?_ne_none {put : Expr × Expr} (member : put ∈ m.pairs) : m.get? put.1 ≠ none := by
  intro missing
  have none_equal := List.find?_eq_none.1 (Option.map_eq_none_iff.1 missing) put member
  exact none_equal (Expr.beq_refl put.1)

/-- The replacement of the first pattern that is the same expression. -/
theorem get?_eq_some_iff : m.get? e = some r ↔ ∃ before pattern after,
    m.pairs = before ++ (pattern, r) :: after ∧ (pattern == e) = true ∧
      ∀ p ∈ before, (p.1 == e) = false := by
  unfold get?
  rw [Option.map_eq_some_iff]
  simp only [List.find?_eq_some_iff_append, Prod.exists, Bool.not_eq_eq_eq_not, Bool.not_true]
  constructor
  · rintro ⟨pattern, _, ⟨same, before, after, split, first⟩, rfl⟩
    exact ⟨before, pattern, after, split, same, first⟩
  · rintro ⟨before, pattern, after, split, same, first⟩
    exact ⟨pattern, r, ⟨same, before, after, split, first⟩, rfl⟩

theorem get?_eq_none_iff : m.get? e = none ↔ ∀ p ∈ m.pairs, (p.1 == e) = false := by
  unfold get?
  rw [Option.map_eq_none_iff, List.find?_eq_none]
  simp only [Bool.not_eq_true]

/-- No map looks at the type of what it replaces. -/
theorem get?_untyped (m : Substitution) (kind : Kind) (children : List Expr) (ty : DataType) :
    m.get? (.node kind children ty) = m.get? (.untyped kind children) :=
  m.get?_congr (Expr.node_beq_iff_forall₂.2 ⟨rfl, List.forall₂_same.2 fun c _ => c.beq_refl⟩)

/-- The replacement with the type of what it replaces. -/
def retyped (m : Substitution) (e : Expr) : Option Expr := (m.get? e).map (·.setType e.ty)

theorem leaves_retyped (leaves : Expr.Leaves m.get?) : Expr.Leaves m.retyped := by
  intro e r found
  obtain ⟨put, replaced, rfl⟩ := Option.map_eq_some_iff.1 found
  exact leaves e put replaced

theorem rewrite_retyped_of_some (found : m.get? e = some r) :
    e.rewrite m.retyped = r.setType e.ty := by
  apply Expr.rewrite_of_some
  rw [retyped, found]
  rfl

theorem rewrite_retyped_of_none {kind : Kind} {children : List Expr} {ty : DataType}
    (missing : m.get? (.node kind children ty) = none) :
    (Expr.node kind children ty).rewrite m.retyped =
      .node kind (children.map (Expr.rewrite m.retyped)) ty := by
  apply Expr.rewrite_of_none
  rw [retyped, missing]
  rfl

theorem rewrite_retyped_ty (m : Substitution) (e : Expr) : (e.rewrite m.retyped).ty = e.ty := by
  cases found : m.get? e with
  | some r =>
    rw [rewrite_retyped_of_some found]
    rfl
  | none =>
    obtain ⟨kind, children, ty⟩ := e
    rw [rewrite_retyped_of_none found]
    rfl

/-- Substituting gives the same tree up to types. -/
theorem rewrite_retyped_bare (m : Substitution) (e : Expr) :
    (e.substitute m).bare = (e.rewrite m.retyped).bare := by
  apply Expr.rewrite_bare_congr
  intro c
  rw [retyped, Option.map_map]
  cases m.get? c with
  | none => rfl
  | some r =>
    obtain ⟨kind, children, ty⟩ := r
    exact congrArg some (Expr.node_bare_eq_iff.2 ⟨rfl, List.forall₂_same.2 fun _ _ => rfl⟩)

end Substitution

end ScalarSql

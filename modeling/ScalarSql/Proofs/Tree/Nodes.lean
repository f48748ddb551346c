import ScalarSql.Expr.Search
import Mathlib.Data.List.Forall2

/-!
The nodes of a tree, as a list from the root on and by the path that leads to each of them. A path
gives at every node the place of the child to go on with. The depth and the width of a tree are
bounds over these nodes, and `contains` and `collect` are questions about the same list.
-/
namespace ScalarSql
namespace Expr

@[simp] theorem kind_node (kind : Kind) (children : List Expr) (ty : DataType) :
    (node kind children ty).kind = kind := rfl

@[simp] theorem children_node (kind : Kind) (children : List Expr) (ty : DataType) :
    (node kind children ty).children = children := rfl

@[simp] theorem ty_node (kind : Kind) (children : List Expr) (ty : DataType) :
    (node kind children ty).ty = ty := rfl

@[simp] theorem shape_node (kind : Kind) (children : List Expr) (ty : DataType) :
    (node kind children ty).shape = kind.shape := rfl

mutual

/-- All nodes, each before its children. -/
def nodes : Expr → List Expr
  | node kind children ty => node kind children ty :: nodesAll children

def nodesAll : List Expr → List Expr
  | [] => []
  | e :: es => e.nodes ++ nodesAll es

end

theorem nodesAll_eq_flatMap (es : List Expr) : nodesAll es = es.flatMap nodes := by
  induction es with
  | nil => rfl
  | cons e es ih => simp [nodesAll, ih]

theorem nodes_node (kind : Kind) (children : List Expr) (ty : DataType) :
    (node kind children ty).nodes = node kind children ty :: children.flatMap nodes := by
  rw [nodes, nodesAll_eq_flatMap]

theorem mem_nodes_node {n : Expr} {kind : Kind} {children : List Expr} {ty : DataType} :
    n ∈ (node kind children ty).nodes ↔
      n = node kind children ty ∨ ∃ c ∈ children, n ∈ c.nodes := by
  simp [nodes_node]

theorem self_mem_nodes (e : Expr) : e ∈ e.nodes := by
  cases e
  exact mem_nodes_node.2 (Or.inl rfl)

/-- A property of all nodes is one of the root and of all nodes below each child. -/
theorem forall_nodes_node {P : Expr → Prop} {kind : Kind} {children : List Expr} {ty : DataType} :
    (∀ n ∈ (node kind children ty).nodes, P n) ↔
      P (node kind children ty) ∧ ∀ c ∈ children, ∀ n ∈ c.nodes, P n := by
  constructor
  · intro all
    exact ⟨all _ (self_mem_nodes _),
      fun c member n inside => all n (mem_nodes_node.2 (Or.inr ⟨c, member, inside⟩))⟩
  · rintro ⟨root, below⟩ n inside
    rcases mem_nodes_node.1 inside with rfl | ⟨c, member, deeper⟩
    · exact root
    · exact below c member n deeper

theorem mem_nodes_child {kind : Kind} {children : List Expr} {ty : DataType} {c n : Expr}
    (member : c ∈ children) (inside : n ∈ c.nodes) : n ∈ (node kind children ty).nodes :=
  mem_nodes_node.2 (Or.inr ⟨c, member, inside⟩)

/-- Nodes of a node of the tree are nodes of the tree. -/
theorem mem_nodes_trans {e n m : Expr} (outer : n ∈ e.nodes) (inner : m ∈ n.nodes) :
    m ∈ e.nodes := by
  induction e using children_induction with
  | node kind children ty ih =>
    rcases mem_nodes_node.1 outer with rfl | ⟨c, member, deeper⟩
    · exact inner
    · exact mem_nodes_child member (ih c member deeper)

/-- The node that a path leads to. -/
def at? (e : Expr) : List Nat → Option Expr
  | [] => some e
  | i :: path =>
    match e.children[i]? with
    | some c => c.at? path
    | none => none

theorem at?_cons_eq_some {e n : Expr} {i : Nat} {path : List Nat} :
    e.at? (i :: path) = some n ↔ ∃ c, e.children[i]? = some c ∧ c.at? path = some n := by
  simp only [at?]
  cases e.children[i]? <;> simp

/-- The nodes of a tree are what its paths lead to. -/
theorem mem_nodes_iff_at? {e n : Expr} : n ∈ e.nodes ↔ ∃ path, e.at? path = some n := by
  constructor
  · intro inside
    induction e using children_induction with
    | node kind children ty ih =>
      rcases mem_nodes_node.1 inside with rfl | ⟨c, member, deeper⟩
      · exact ⟨[], rfl⟩
      · obtain ⟨path, leads⟩ := ih c member deeper
        obtain ⟨i, place⟩ := List.mem_iff_getElem?.1 member
        exact ⟨i :: path, at?_cons_eq_some.2 ⟨c, place, leads⟩⟩
  · rintro ⟨path, leads⟩
    induction path generalizing e with
    | nil =>
      cases leads
      exact self_mem_nodes _
    | cons i path ih =>
      obtain ⟨c, place, deeper⟩ := at?_cons_eq_some.1 leads
      obtain ⟨kind, children, ty⟩ := e
      exact mem_nodes_child (List.mem_of_getElem? place) (ih deeper)

/-- No path from the root passes more than `n` nodes. -/
def DepthAtMost (n : Nat) (e : Expr) : Prop :=
  ∀ path sub, e.at? path = some sub → path.length + 1 ≤ n

theorem DepthAtMost.mono {e : Expr} {n k : Nat} (deep : e.DepthAtMost n) (le : n ≤ k) :
    e.DepthAtMost k :=
  fun path sub leads => Nat.le_trans (deep path sub leads) le

/-- No node has more than `n` children. -/
def WidthAtMost (n : Nat) (e : Expr) : Prop := ∀ sub ∈ e.nodes, sub.children.length ≤ n

theorem depthAtMost_node {n : Nat} {kind : Kind} {children : List Expr} {ty : DataType} :
    (node kind children ty).DepthAtMost n ↔ 0 < n ∧ ∀ c ∈ children, c.DepthAtMost (n - 1) := by
  constructor
  · intro bounded
    refine ⟨bounded [] _ rfl, ?_⟩
    intro c member path sub leads
    obtain ⟨i, place⟩ := List.mem_iff_getElem?.1 member
    have longer := bounded (i :: path) sub (at?_cons_eq_some.2 ⟨c, place, leads⟩)
    simp only [List.length_cons] at longer
    omega
  · rintro ⟨positive, below⟩ path sub leads
    cases path with
    | nil => exact positive
    | cons i path =>
      obtain ⟨c, place, deeper⟩ := at?_cons_eq_some.1 leads
      have shorter := below c (List.mem_of_getElem? place) path sub deeper
      simp only [List.length_cons]
      omega

theorem widthAtMost_node {n : Nat} {kind : Kind} {children : List Expr} {ty : DataType} :
    (node kind children ty).WidthAtMost n ↔
      children.length ≤ n ∧ ∀ c ∈ children, c.WidthAtMost n :=
  forall_nodes_node

theorem contains_node {shape : Shape} {kind : Kind} {children : List Expr} {ty : DataType} :
    (node kind children ty).contains shape = true ↔
      kind.shape = shape ∨ ∃ c ∈ children, c.contains shape = true := by
  simp [contains, anyContains_eq_any]

theorem contains_iff {shape : Shape} {e : Expr} :
    e.contains shape = true ↔ ∃ n ∈ e.nodes, n.shape = shape := by
  induction e using children_induction with
  | node kind children ty ih =>
    rw [contains_node]
    constructor
    · rintro (root | ⟨c, member, found⟩)
      · exact ⟨_, self_mem_nodes _, root⟩
      · obtain ⟨n, inside, same⟩ := (ih c member).1 found
        exact ⟨n, mem_nodes_child member inside, same⟩
    · rintro ⟨n, inside, same⟩
      rcases mem_nodes_node.1 inside with rfl | ⟨c, member, deeper⟩
      · exact Or.inl same
      · exact Or.inr ⟨c, member, (ih c member).2 ⟨n, deeper, same⟩⟩

theorem contains_eq_false_iff {shape : Shape} {e : Expr} :
    e.contains shape = false ↔ ∀ n ∈ e.nodes, n.shape ≠ shape := by
  rw [← Bool.not_eq_true, contains_iff]
  simp only [not_exists, not_and, ne_eq]

/-- What is collected are the nodes of the shape in the order of the tree. -/
theorem collect_eq_filter (shape : Shape) (e : Expr) :
    e.collect shape = e.nodes.filter (·.shape = shape) := by
  induction e using children_induction with
  | node kind children ty ih =>
    have below : children.flatMap (collect shape) =
        (children.flatMap nodes).filter (·.shape = shape) := by
      rw [List.filter_flatMap, List.flatMap_congr ih]
    rw [collect_node, collectAll_eq_flatMap, below, nodes_node, List.filter_cons]
    by_cases root : kind.shape = shape <;> simp [root]

theorem mem_collect {shape : Shape} {e n : Expr} :
    n ∈ e.collect shape ↔ n ∈ e.nodes ∧ n.shape = shape := by
  simp [collect_eq_filter]

theorem mem_collectAll {shape : Shape} {es : List Expr} {n : Expr} :
    n ∈ collectAll shape es ↔ ∃ e ∈ es, n ∈ e.nodes ∧ n.shape = shape := by
  simp [collectAll_eq_flatMap, mem_collect]

end Expr
end ScalarSql

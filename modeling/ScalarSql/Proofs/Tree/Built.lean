import ScalarSql.Expr.Build
import ScalarSql.Proofs.Tree.Congruence

/-!
The trees that the constructors of `Expr.Build` give, with any types at their nodes. Every node of
such a tree has as many children as its kind takes (`built_fitsArity`). What depends on kinds and
children alone holds of all nodes of a tree whatever its types (`forall_nodes_of_bare_eq`).
-/
namespace ScalarSql

/-- How many children a node of the kind can have. Only COUNT without DISTINCT does without an
argument. -/
def Kind.takes : Kind → Nat → Prop
  | .slot _, n | .literal _, n => n = 0
  | .arithmetic _, n | .comparison _, n | .pattern _, n => n = 2
  | .connective op, n => n = op.arity
  | .nullTest _, n | .cast _, n => n = 1
  | .membership _, n => 2 ≤ n
  | .range _, n => n = 3
  | .call _, _ => True
  | .aggregate op distinct, n => n = 1 ∨ n = 0 ∧ op = .count ∧ distinct = false

namespace Expr

/-- Trees from the constructors, where each node may be given a type at any time. -/
inductive Built : Expr → Prop
  | slot (ref : SlotRef) : Built (.slot ref)
  | literal (value : Literal) : Built (.literal value)
  | arithmetic (op : Arithmetic) {left right : Expr} :
      Built left → Built right → Built (.arithmetic op left right)
  | comparison (op : Comparison) {left right : Expr} :
      Built left → Built right → Built (.comparison op left right)
  | and {left right : Expr} : Built left → Built right → Built (.and left right)
  | or {left right : Expr} : Built left → Built right → Built (.or left right)
  | not {operand : Expr} : Built operand → Built (.not operand)
  | isNull {operand : Expr} : Built operand → Built (.isNull operand)
  | isNotNull {operand : Expr} : Built operand → Built (.isNotNull operand)
  | pattern (op : Pattern) {value pattern : Expr} :
      Built value → Built pattern → Built (.pattern op value pattern)
  | membership (negated : Bool) {compared e : Expr} {members : List Expr} :
      Built compared → (∀ m ∈ members, Built m) → membership compared members negated = .ok e →
      Built e
  | between (negated : Bool) {compared low high : Expr} :
      Built compared → Built low → Built high → Built (.between compared low high negated)
  | cast (target : DataType) {operand : Expr} : Built operand → Built (.cast operand target)
  | call (name : String) {arguments : List Expr} :
      (∀ c ∈ arguments, Built c) → Built (.call name arguments)
  | aggregate (op : Aggregate) (distinct : Bool) {argument : Expr} :
      Built argument → Built (.aggregate op argument distinct)
  | countStar : Built .countStar
  | retyped (ty : DataType) {e : Expr} : Built e → Built (e.setType ty)

/-- Every node has the property, which may depend on its kind and its number of children. -/
def EachNode (P : Kind → Nat → Prop) (e : Expr) : Prop := ∀ n ∈ e.nodes, P n.kind n.children.length

/-- Every node has as many children as its kind takes. -/
def FitsArity (e : Expr) : Prop := ∀ n ∈ e.nodes, n.kind.takes n.children.length

theorem eachNode_node {P : Kind → Nat → Prop} {kind : Kind} {children : List Expr} {ty : DataType} :
    (node kind children ty).EachNode P ↔
      P kind children.length ∧ ∀ c ∈ children, c.EachNode P :=
  forall_nodes_node

theorem fitsArity_node {kind : Kind} {children : List Expr} {ty : DataType} :
    (node kind children ty).FitsArity ↔
      kind.takes children.length ∧ ∀ c ∈ children, c.FitsArity :=
  eachNode_node

theorem EachNode.setType {P : Kind → Nat → Prop} {e : Expr} (each : e.EachNode P) (ty : DataType) :
    (e.setType ty).EachNode P := by
  obtain ⟨kind, children, old⟩ := e
  exact eachNode_node.2 (eachNode_node.1 each)

/-- What a constructor makes of its operands. -/
inductive Made : List Expr → Expr → Prop
  | slot (ref : SlotRef) : Made [] (.slot ref)
  | literal (value : Literal) : Made [] (.literal value)
  | arithmetic (op : Arithmetic) (left right : Expr) :
      Made [left, right] (.arithmetic op left right)
  | comparison (op : Comparison) (left right : Expr) :
      Made [left, right] (.comparison op left right)
  | and (left right : Expr) : Made [left, right] (.and left right)
  | or (left right : Expr) : Made [left, right] (.or left right)
  | not (operand : Expr) : Made [operand] (.not operand)
  | isNull (operand : Expr) : Made [operand] (.isNull operand)
  | isNotNull (operand : Expr) : Made [operand] (.isNotNull operand)
  | pattern (op : Pattern) (value pattern : Expr) : Made [value, pattern] (.pattern op value pattern)
  | membership {compared e : Expr} {members : List Expr} {negated : Bool} :
      membership compared members negated = .ok e → Made (compared :: members) e
  | between (compared low high : Expr) (negated : Bool) :
      Made [compared, low, high] (.between compared low high negated)
  | cast (operand : Expr) (target : DataType) : Made [operand] (.cast operand target)
  | call (name : String) (arguments : List Expr) : Made arguments (.call name arguments)
  | aggregate (op : Aggregate) (argument : Expr) (distinct : Bool) :
      Made [argument] (.aggregate op argument distinct)
  | countStar : Made [] .countStar

theorem membership_eq_ok_iff {compared e : Expr} {members : List Expr} {negated : Bool} :
    membership compared members negated = .ok e ↔
      members ≠ [] ∧ e = untyped (.membership negated) (compared :: members) := by
  cases members <;> simp [membership, eq_comm]

theorem Made.children_eq {operands : List Expr} {e : Expr} (made : Made operands e) :
    e.children = operands := by
  cases made with
  | membership success =>
    obtain ⟨-, rfl⟩ := membership_eq_ok_iff.1 success
    rfl
  | _ => rfl

theorem Made.takes {operands : List Expr} {e : Expr} (made : Made operands e) :
    e.kind.takes operands.length := by
  cases made with
  | membership success =>
    obtain ⟨some_members, rfl⟩ := membership_eq_ok_iff.1 success
    exact Nat.succ_le_succ (List.length_pos_iff.2 some_members)
  | call name => trivial
  | aggregate op argument distinct => exact Or.inl rfl
  | countStar => exact Or.inr ⟨rfl, rfl, rfl⟩
  | _ => rfl

/-- A constructor puts one node on top of its operands. -/
theorem Made.eachNode {P : Kind → Nat → Prop} {operands : List Expr} {e : Expr}
    (made : Made operands e) (own : P e.kind operands.length)
    (below : ∀ o ∈ operands, o.EachNode P) : e.EachNode P := by
  obtain ⟨kind, children, ty⟩ := e
  obtain rfl : children = operands := made.children_eq
  exact eachNode_node.2 ⟨own, below⟩

theorem Made.fitsArity {operands : List Expr} {e : Expr} (made : Made operands e)
    (below : ∀ o ∈ operands, o.FitsArity) : e.FitsArity :=
  made.eachNode made.takes below

theorem built_fitsArity {e : Expr} (built : Built e) : e.FitsArity := by
  induction built with
  | slot ref => exact (Made.slot ref).fitsArity (by simp)
  | literal value => exact (Made.literal value).fitsArity (by simp)
  | arithmetic op _ _ left right =>
    exact (Made.arithmetic op _ _).fitsArity (by simp [left, right])
  | comparison op _ _ left right =>
    exact (Made.comparison op _ _).fitsArity (by simp [left, right])
  | and _ _ left right => exact (Made.and _ _).fitsArity (by simp [left, right])
  | or _ _ left right => exact (Made.or _ _).fitsArity (by simp [left, right])
  | not _ operand => exact (Made.not _).fitsArity (by simp [operand])
  | isNull _ operand => exact (Made.isNull _).fitsArity (by simp [operand])
  | isNotNull _ operand => exact (Made.isNotNull _).fitsArity (by simp [operand])
  | pattern op _ _ value pattern =>
    exact (Made.pattern op _ _).fitsArity (by simp [value, pattern])
  | membership negated _ _ made first others =>
    exact (Made.membership made).fitsArity (List.forall_mem_cons.2 ⟨first, others⟩)
  | between negated _ _ _ compared low high =>
    exact (Made.between _ _ _ negated).fitsArity (by simp [compared, low, high])
  | cast target _ operand => exact (Made.cast _ target).fitsArity (by simp [operand])
  | call name _ arguments => exact (Made.call name _).fitsArity arguments
  | aggregate op distinct _ argument =>
    exact (Made.aggregate op _ distinct).fitsArity (by simp [argument])
  | countStar => exact Made.countStar.fitsArity (by simp)
  | retyped ty _ fits => exact EachNode.setType fits ty

/-- Trees of the same kinds agree on what their nodes have regardless of types. -/
theorem forall_nodes_of_bare_eq {P : Expr → Prop}
    (untouched : ∀ {c d : Expr}, c.bare = d.bare → P c → P d) {a b : Expr}
    (same : a.bare = b.bare) (all : ∀ n ∈ a.nodes, P n) : ∀ n ∈ b.nodes, P n := by
  induction a using children_induction generalizing b with
  | node k cs s ih =>
    obtain ⟨l, ds, t⟩ := b
    obtain ⟨-, below⟩ := node_bare_eq_iff.1 same
    obtain ⟨root, inner⟩ := forall_nodes_node.1 all
    refine forall_nodes_node.2 ⟨untouched same root, ?_⟩
    intro d member
    obtain ⟨c, inside, equal⟩ := exists_mem_of_forall₂ below member
    exact ih c inside equal (inner c inside)

/-- Kinds and numbers of children do not depend on types. -/
theorem eachNode_of_bare_eq {P : Kind → Nat → Prop} {a b : Expr} (same : a.bare = b.bare)
    (each : a.EachNode P) : b.EachNode P := by
  refine forall_nodes_of_bare_eq (fun {c d} equal own => ?_) same each
  obtain ⟨k, cs, s⟩ := c
  obtain ⟨l, ds, t⟩ := d
  obtain ⟨rfl, below⟩ := node_bare_eq_iff.1 equal
  simpa only [kind_node, children_node, below.length_eq] using own

/-- The number of children fits the kind or not, whatever the types. -/
theorem fitsArity_of_bare_eq {a b : Expr} (same : a.bare = b.bare) (fits : a.FitsArity) :
    b.FitsArity :=
  eachNode_of_bare_eq same fits

end Expr
end ScalarSql

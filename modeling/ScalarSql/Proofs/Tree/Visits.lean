import ScalarSql.Proofs.Tree.Nodes

/-!
The course of a walk over a tree. Every node is entered before its children and left after them, and
the order in which nodes are left is the post-order of the tree (`left_visits`).
-/
namespace ScalarSql

/-- A step of a walk. A node is entered at its depth. -/
inductive Visit where
  | enter (depth : Nat) (n : Expr)
  | leave (n : Expr)

namespace Visit

/-- The node that the step leaves, if it leaves one. -/
def left? : Visit → Option Expr
  | enter _ _ => none
  | leave n => some n

/-- The nodes that the steps leave, in their order. -/
def left (steps : List Visit) : List Expr := steps.filterMap left?

theorem left_enter (depth : Nat) (n : Expr) (steps : List Visit) :
    left (enter depth n :: steps) = left steps := rfl

theorem left_append (before after : List Visit) :
    left (before ++ after) = left before ++ left after :=
  List.filterMap_append

theorem mem_left {n : Expr} {steps : List Visit} : n ∈ left steps ↔ leave n ∈ steps := by
  rw [left, List.mem_filterMap]
  constructor
  · rintro ⟨step, member, leaves⟩
    cases step with
    | enter depth m => cases leaves
    | leave m =>
      cases leaves
      exact member
  · intro member
    exact ⟨leave n, member, rfl⟩

end Visit

namespace Expr

mutual

/-- All nodes, each after its children. -/
def postorder : Expr → List Expr
  | node kind children ty => postorderAll children ++ [node kind children ty]

def postorderAll : List Expr → List Expr
  | [] => []
  | e :: es => e.postorder ++ postorderAll es

end

mutual

/-- The steps of a walk over the tree, where the root has the given depth. -/
def visits (depth : Nat) : Expr → List Visit
  | node kind children ty =>
    .enter depth (node kind children ty) ::
      (visitsAll (depth + 1) children ++ [.leave (node kind children ty)])

def visitsAll (depth : Nat) : List Expr → List Visit
  | [] => []
  | e :: es => e.visits depth ++ visitsAll depth es

end

theorem postorderAll_eq_flatMap (es : List Expr) : postorderAll es = es.flatMap postorder := by
  induction es with
  | nil => rfl
  | cons e es ih => simp [postorderAll, ih]

theorem postorder_node (kind : Kind) (children : List Expr) (ty : DataType) :
    (node kind children ty).postorder =
      children.flatMap postorder ++ [node kind children ty] := by
  rw [postorder, postorderAll_eq_flatMap]

theorem visitsAll_eq_flatMap (depth : Nat) (es : List Expr) :
    visitsAll depth es = es.flatMap (visits depth) := by
  induction es with
  | nil => rfl
  | cons e es ih => simp [visitsAll, ih]

theorem visits_node (depth : Nat) (kind : Kind) (children : List Expr) (ty : DataType) :
    (node kind children ty).visits depth =
      .enter depth (node kind children ty) ::
        (children.flatMap (visits (depth + 1)) ++ [.leave (node kind children ty)]) := by
  rw [visits, visitsAll_eq_flatMap]

/-- A walk leaves the nodes of the tree in post-order. -/
theorem left_visits (depth : Nat) (e : Expr) : Visit.left (e.visits depth) = e.postorder := by
  induction e using children_induction generalizing depth with
  | node kind children ty ih =>
    have below : Visit.left (children.flatMap (visits (depth + 1))) =
        children.flatMap postorder := by
      rw [Visit.left, List.filterMap_flatMap]
      exact List.flatMap_congr fun c member => ih c member (depth + 1)
    rw [visits_node, postorder_node, Visit.left_enter, Visit.left_append, below]
    rfl

theorem left_flatMap_visits (depth : Nat) (es : List Expr) :
    Visit.left (es.flatMap (visits depth)) = es.flatMap postorder := by
  rw [Visit.left, List.filterMap_flatMap]
  exact List.flatMap_congr fun e _ => left_visits depth e

end Expr
end ScalarSql

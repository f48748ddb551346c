import ScalarSql.Expr.Rewrite
import ScalarSql.Proofs.Tree.Equality

/-!
Equal trees answer alike: each search of `Expr.Search` and each rewriting gives equal results for
equal trees, since none of them reads a type, or the label of a slot reference.
-/
namespace ScalarSql

theorem any_eq_of_forall₂ {α β : Type} {p : α → Bool} {q : β → Bool} {as : List α} {bs : List β}
    (agree : List.Forall₂ (fun a b => p a = q b) as bs) : as.any p = bs.any q := by
  induction agree with
  | nil => rfl
  | cons first _ ih => rw [List.any_cons, List.any_cons, first, ih]

theorem all_eq_of_forall₂ {α β : Type} {p : α → Bool} {q : β → Bool} {as : List α} {bs : List β}
    (agree : List.Forall₂ (fun a b => p a = q b) as bs) : as.all p = bs.all q := by
  induction agree with
  | nil => rfl
  | cons first _ ih => rw [List.all_cons, List.all_cons, first, ih]

theorem foldl_eq_of_forall₂ {α β σ : Type} {f : σ → α → σ} {g : σ → β → σ} {as : List α}
    {bs : List β} (agree : List.Forall₂ (fun a b => ∀ s, f s a = g s b) as bs) (s : σ) :
    as.foldl f s = bs.foldl g s := by
  induction agree generalizing s with
  | nil => rfl
  | cons first _ ih => rw [List.foldl_cons, List.foldl_cons, first, ih]

theorem Kind.shape_eq_of_unlabeled {k l : Kind} (same : k.unlabeled = l.unlabeled) :
    k.shape = l.shape :=
  Kind.same_shape (Kind.same_iff.2 same)

/-- The ids met so far and that of the node, if it is a slot reference. -/
def References.addKind (refs : References) : Kind → References
  | .slot ref => refs.add ref
  | _ => refs

theorem References.addKind_congr (refs : References) {k l : Kind}
    (same : k.unlabeled = l.unlabeled) : refs.addKind k = refs.addKind l := by
  rcases Kind.unlabeled_eq_cases same with rfl | ⟨r, s, rfl, rfl, tuples, slots⟩
  · rfl
  · simp [addKind, add, tuples, slots]

/-- A slot reference stands on its own; any other node leaves it to its children. -/
def Kind.boundBy (tuples : List TupleId) : Kind → Bool → Bool
  | .slot ref, _ => ref.tuple ∈ tuples
  | _, below => below

theorem Kind.boundBy_congr (tuples : List TupleId) {k l : Kind}
    (same : k.unlabeled = l.unlabeled) : k.boundBy tuples = l.boundBy tuples := by
  rcases Kind.unlabeled_eq_cases same with rfl | ⟨r, s, rfl, rfl, owners, -⟩
  · rfl
  · funext below
    simp [boundBy, owners]

namespace Expr

theorem references_node (refs : References) (kind : Kind) (children : List Expr) (ty : DataType) :
    (node kind children ty).references refs = children.foldl references (refs.addKind kind) := by
  cases kind <;> simp [references, referencesAll_eq_foldl, References.addKind]

theorem boundBy_node (tuples : List TupleId) (kind : Kind) (children : List Expr) (ty : DataType) :
    (node kind children ty).boundBy tuples =
      kind.boundBy tuples (children.all (boundBy tuples)) := by
  cases kind <;> simp [boundBy, allBoundBy_eq_all, Kind.boundBy]

variable {a b : Expr}

theorem shape_eq_of_beq (same : (a == b) = true) : a.shape = b.shape := by
  obtain ⟨k, cs, s⟩ := a
  obtain ⟨l, ds, t⟩ := b
  exact Kind.shape_eq_of_unlabeled (node_beq_iff_forall₂.1 same).1

theorem contains_congr (shape : Shape) (same : (a == b) = true) :
    a.contains shape = b.contains shape := by
  refine beq_induction (fun k l cs ds s t kinds _ below => ?_) same
  rw [contains, contains, anyContains_eq_any, anyContains_eq_any,
    Kind.shape_eq_of_unlabeled kinds]
  rw [any_eq_of_forall₂ below]

theorem isConstant_congr (same : (a == b) = true) : a.isConstant = b.isConstant := by
  refine beq_induction (fun k l cs ds s t kinds _ below => ?_) same
  rw [isConstant, isConstant, allConstant_eq_all, allConstant_eq_all,
    Kind.shape_eq_of_unlabeled kinds]
  rw [all_eq_of_forall₂ below]

theorem boundBy_congr (tuples : List TupleId) (same : (a == b) = true) :
    a.boundBy tuples = b.boundBy tuples := by
  refine beq_induction (fun k l cs ds s t kinds _ below => ?_) same
  rw [boundBy_node, boundBy_node, Kind.boundBy_congr tuples kinds]
  rw [all_eq_of_forall₂ below]

theorem references_congr (same : (a == b) = true) (refs : References) :
    a.references refs = b.references refs := by
  revert refs
  refine beq_induction (fun k l cs ds s t kinds _ below refs => ?_) same
  rw [references_node, references_node, refs.addKind_congr kinds]
  exact foldl_eq_of_forall₂ below _

/-- Nodes found in equal trees are equal one by one. -/
theorem collect_congr (shape : Shape) (same : (a == b) = true) :
    List.Forall₂ (fun c d => (c == d) = true) (a.collect shape) (b.collect shape) := by
  refine beq_induction (fun k l cs ds s t kinds equal below => ?_) same
  have inner : List.Forall₂ (fun c d => (c == d) = true)
      (collectAll shape cs) (collectAll shape ds) := by
    rw [collectAll_eq_flatMap, collectAll_eq_flatMap]
    exact List.rel_flatMap below fun _ _ found => found
  rw [collect_node, collect_node, Kind.shape_eq_of_unlabeled kinds]
  split
  · exact .cons (node_beq_iff_forall₂.2 ⟨kinds, equal⟩) inner
  · exact inner

/-- Replacing keeps trees equal if equal trees are replaced alike. -/
theorem rewrite_congr {replacement? : Expr → Option Expr}
    (alike : ∀ {c d : Expr}, (c == d) = true → replacement? c = replacement? d)
    (same : (a == b) = true) :
    (a.rewrite replacement? == b.rewrite replacement?) = true := by
  refine beq_induction (fun k l cs ds s t kinds equal below => ?_) same
  have root := alike (node_beq_iff_forall₂.2 ⟨kinds, equal⟩ :
    (node k cs s == node l ds t) = true)
  cases left : replacement? (node k cs s) with
  | some r =>
    rw [rewrite_of_some left, rewrite_of_some (root ▸ left)]
    exact beq_refl r
  | none =>
    rw [rewrite_of_none left, rewrite_of_none (root ▸ left)]
    refine node_beq_iff_forall₂.2 ⟨kinds, ?_⟩
    rw [List.forall₂_map_left_iff, List.forall₂_map_right_iff]
    exact below

theorem substitute_congr (m : Substitution) (same : (a == b) = true) :
    (a.substitute m == b.substitute m) = true :=
  rewrite_congr m.get?_congr same

end Expr
end ScalarSql

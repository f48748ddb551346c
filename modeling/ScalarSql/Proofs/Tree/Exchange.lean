import ScalarSql.Proofs.Tree.Rewriting

/-!
Trees in which subtrees have been exchanged for others, at any places at once (`Exchanged`). The
nodes above keep their kinds, types and numbers of children, so what the new subtrees have and what
these nodes have is all that the new tree has. Substituting is such an exchange.
-/
namespace ScalarSql
namespace Expr

/-- The second tree is the first with some subtrees exchanged, each for an allowed one. -/
inductive Exchanged (allowed : Expr → Expr → Prop) : Expr → Expr → Prop
  | here {e r : Expr} : allowed e r → Exchanged allowed e r
  | inside {kind : Kind} {cs ds : List Expr} {ty : DataType} :
      List.Forall₂ (Exchanged allowed) cs ds →
      Exchanged allowed (.node kind cs ty) (.node kind ds ty)

namespace Exchanged

variable {allowed : Expr → Expr → Prop} {e r : Expr}

/-- Induction with the hypothesis for children at the same place. -/
@[elab_as_elim]
theorem induction {motive : Expr → Expr → Prop} (here : ∀ e r, allowed e r → motive e r)
    (below : ∀ kind cs ds ty, List.Forall₂ (Exchanged allowed) cs ds → List.Forall₂ motive cs ds →
      motive (.node kind cs ty) (.node kind ds ty))
    (exchanged : Exchanged allowed e r) : motive e r := by
  induction e using children_induction generalizing r with
  | node kind cs ty ih =>
    cases exchanged with
    | here exchange => exact here _ r exchange
    | inside children =>
      exact below kind cs _ ty children
        (forall₂_imp_of_mem (fun c member d _ inner => ih c member inner) children)

/-- Nothing need be exchanged. -/
theorem refl (e : Expr) : Exchanged allowed e e := by
  induction e using children_induction with
  | node kind cs ty ih => exact .inside (List.forall₂_same.2 ih)

theorem mono {wider : Expr → Expr → Prop} (imp : ∀ e r, allowed e r → wider e r)
    (exchanged : Exchanged allowed e r) : Exchanged wider e r := by
  refine induction (fun e r exchange => .here (imp e r exchange)) ?_ exchanged
  intro kind cs ds ty _ children
  exact .inside children

/-- Where the new subtrees have no node of a shape, the new tree has none if the old one had
none. -/
theorem contains_eq_false {shape : Shape}
    (without : ∀ e r, allowed e r → r.contains shape = false) (exchanged : Exchanged allowed e r) :
    e.contains shape = false → r.contains shape = false := by
  refine induction (fun e r exchange _ => without e r exchange) ?_ exchanged
  intro kind cs ds ty _ children
  simp only [contains_eq_false_iff, forall_nodes_node] at children ⊢
  rintro ⟨root, inner⟩
  refine ⟨root, ?_⟩
  intro d member
  obtain ⟨c, inside, kept⟩ := exists_mem_of_forall₂ children member
  exact kept (inner c inside)

theorem anyContains_take_eq_false {shape : Shape}
    (without : ∀ e r, allowed e r → r.contains shape = false) {cs ds : List Expr}
    (exchanged : List.Forall₂ (Exchanged allowed) cs ds) (n : Nat)
    (old : anyContains shape (cs.take n) = false) : anyContains shape (ds.take n) = false := by
  rw [anyContains_eq_any, List.any_eq_false] at old ⊢
  intro d member
  obtain ⟨c, inside, exchange⟩ := exists_mem_of_forall₂ (List.forall₂_take n exchanged) member
  rw [exchange.contains_eq_false without (Bool.eq_false_iff.2 (old c inside))]
  exact Bool.false_ne_true

/-- New leaves do not make a tree deeper. -/
theorem depthAtMost {n : Nat} (leaves : ∀ e r, allowed e r → r.children = [])
    (exchanged : Exchanged allowed e r) (deep : e.DepthAtMost n) : r.DepthAtMost n := by
  have all : ∀ n, e.DepthAtMost n → r.DepthAtMost n := by
    refine induction (motive := fun e r => ∀ n, e.DepthAtMost n → r.DepthAtMost n) ?_ ?_ exchanged
    · intro e r exchange n deep
      obtain ⟨kind, children, ty⟩ := r
      obtain rfl : children = [] := leaves _ _ exchange
      exact depthAtMost_node.2 ⟨deep [] e rfl, by simp⟩
    · intro kind cs ds ty _ children n deep
      obtain ⟨positive, inner⟩ := depthAtMost_node.1 deep
      refine depthAtMost_node.2 ⟨positive, ?_⟩
      intro d member
      obtain ⟨c, inside, kept⟩ := exists_mem_of_forall₂ children member
      exact kept _ (inner c inside)
  exact all n deep

end Exchanged

/-- Rewriting exchanges the subtrees that have a replacement, but for those inside others. -/
theorem exchanged_rewrite {allowed : Expr → Expr → Prop} {replacement? : Expr → Option Expr}
    (allows : ∀ e r, replacement? e = some r → allowed e r) (e : Expr) :
    Exchanged allowed e (e.rewrite replacement?) := by
  refine rewrite_induction (fun e r found => .here (allows e r found)) ?_ e
  intro kind cs ty _ ih
  exact .inside (List.forall₂_map_right_iff.2 (List.forall₂_same.2 ih))

end Expr
end ScalarSql

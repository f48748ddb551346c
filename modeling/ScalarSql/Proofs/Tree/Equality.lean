import ScalarSql.Proofs.Tree.Nodes

/-!
Three readings of "the same tree": `a.bare = b.bare` leaves the types out,
`a.unlabeled = b.unlabeled` the labels, and `a == b` both. Each of them holds of two nodes if it
holds of the kinds and, child by child, of the children. `beq_induction` is induction over two equal
trees at once.
-/
namespace ScalarSql

theorem Kind.unlabeled_eq_cases {k l : Kind} (same : k.unlabeled = l.unlabeled) :
    k = l ∨ ∃ r s : SlotRef, k = .slot r ∧ l = .slot s ∧ r.tuple = s.tuple ∧ r.slot = s.slot := by
  cases k with
  | slot r =>
    cases l with
    | slot s =>
      right
      refine ⟨r, s, rfl, rfl, ?_⟩
      simpa [Kind.unlabeled] using same
    | _ => simp [Kind.unlabeled] at same
  | _ =>
    left
    cases l with
    | slot s => simp [Kind.unlabeled] at same
    | _ => simpa only [Kind.unlabeled] using same

theorem Kind.exists_slot_of_unlabeled {r : SlotRef} {k : Kind}
    (same : (Kind.slot r).unlabeled = k.unlabeled) : ∃ s, k = .slot s := by
  rcases Kind.unlabeled_eq_cases same with rfl | ⟨_, s, -, rfl, -⟩
  · exact ⟨r, rfl⟩
  · exact ⟨s, rfl⟩

theorem map_eq_iff_forall₂ {α β : Type} {f : α → β} {as : List α} {bs : List β} :
    as.map f = bs ↔ List.Forall₂ (fun a b => f a = b) as bs := by
  rw [← List.forall₂_eq_eq_eq, List.forall₂_map_left_iff]

theorem map_eq_map_iff_forall₂.{u} {α β : Type} {γ : Type u} {f : α → γ} {g : β → γ} {as : List α}
    {bs : List β} : as.map f = bs.map g ↔ List.Forall₂ (fun a b => f a = g b) as bs := by
  rw [← List.forall₂_eq_eq_eq, List.forall₂_map_left_iff, List.forall₂_map_right_iff]

theorem forall₂_imp_of_mem {α β : Type} {R S : α → β → Prop} {as : List α} {bs : List β}
    (imp : ∀ a ∈ as, ∀ b ∈ bs, R a b → S a b) (related : List.Forall₂ R as bs) :
    List.Forall₂ S as bs := by
  induction related with
  | nil => exact .nil
  | cons first _ ih =>
    exact .cons (imp _ (by simp) _ (by simp) first)
      (ih fun a left b right => imp a (by simp [left]) b (by simp [right]))

theorem exists_mem_of_forall₂ {α β : Type} {R : α → β → Prop} {as : List α} {bs : List β}
    (related : List.Forall₂ R as bs) {b : β} (member : b ∈ bs) : ∃ a ∈ as, R a b := by
  induction related with
  | nil => simp at member
  | cons first _ ih =>
    rcases List.mem_cons.1 member with rfl | later
    · exact ⟨_, by simp, first⟩
    · obtain ⟨a, inside, pair⟩ := ih later
      exact ⟨a, by simp [inside], pair⟩

namespace Expr

mutual

/-- The same tree with other kinds and types at its nodes. -/
def mapNodes (onKind : Kind → Kind) (onType : DataType → DataType) : Expr → Expr
  | node kind children ty => node (onKind kind) (mapNodesAll onKind onType children) (onType ty)

def mapNodesAll (onKind : Kind → Kind) (onType : DataType → DataType) : List Expr → List Expr
  | [] => []
  | e :: es => e.mapNodes onKind onType :: mapNodesAll onKind onType es

end

/-- The tree without its types, as the constructors build it. -/
def bare (e : Expr) : Expr := e.mapNodes id fun _ => .invalid

/-- The tree without the labels of its slot references. -/
def unlabeled (e : Expr) : Expr := e.mapNodes Kind.unlabeled id

theorem mapNodesAll_eq_map (onKind : Kind → Kind) (onType : DataType → DataType)
    (es : List Expr) : mapNodesAll onKind onType es = es.map (mapNodes onKind onType) := by
  induction es with
  | nil => rfl
  | cons e es ih => simp [mapNodesAll, ih]

theorem mapNodes_node (onKind : Kind → Kind) (onType : DataType → DataType) (kind : Kind)
    (children : List Expr) (ty : DataType) :
    (node kind children ty).mapNodes onKind onType =
      node (onKind kind) (children.map (mapNodes onKind onType)) (onType ty) := by
  rw [mapNodes, mapNodesAll_eq_map]

theorem kind_mapNodes {onKind : Kind → Kind} {onType : DataType → DataType} (e : Expr) :
    (e.mapNodes onKind onType).kind = onKind e.kind := by
  cases e
  rfl

theorem ty_mapNodes {onKind : Kind → Kind} {onType : DataType → DataType} (e : Expr) :
    (e.mapNodes onKind onType).ty = onType e.ty := by
  cases e
  rfl

/-- Paths lead to the same nodes, with their own kinds and types changed. -/
theorem at?_mapNodes (onKind : Kind → Kind) (onType : DataType → DataType) (e : Expr)
    (path : List Nat) :
    (e.mapNodes onKind onType).at? path = (e.at? path).map (mapNodes onKind onType) := by
  induction path generalizing e with
  | nil => rfl
  | cons i path ih =>
    obtain ⟨kind, children, ty⟩ := e
    simp only [mapNodes_node, at?, children_node, List.getElem?_map]
    cases children[i]? with
    | none => rfl
    | some c => exact ih c

theorem node_bare_eq_iff {k l : Kind} {cs ds : List Expr} {s t : DataType} :
    (node k cs s).bare = (node l ds t).bare ↔
      k = l ∧ List.Forall₂ (fun c d => c.bare = d.bare) cs ds := by
  simp only [bare, mapNodes_node, node.injEq, id_eq, and_true, map_eq_map_iff_forall₂]

theorem node_unlabeled_eq_iff {k l : Kind} {cs ds : List Expr} {s t : DataType} :
    (node k cs s).unlabeled = (node l ds t).unlabeled ↔
      k.unlabeled = l.unlabeled ∧ List.Forall₂ (fun c d => c.unlabeled = d.unlabeled) cs ds ∧
        s = t := by
  simp only [unlabeled, mapNodes_node, node.injEq, id_eq, map_eq_map_iff_forall₂]

theorem ty_eq_of_unlabeled {a b : Expr} (same : a.unlabeled = b.unlabeled) : a.ty = b.ty := by
  obtain ⟨k, cs, s⟩ := a
  obtain ⟨l, ds, t⟩ := b
  exact (node_unlabeled_eq_iff.1 same).2.2

/-- What cannot be told apart after the change is the same wherever a path leads. -/
theorem map_at?_of_mapNodes_eq {onKind : Kind → Kind} {onType : DataType → DataType} {β : Type}
    {view : Expr → β} (blind : ∀ e : Expr, view (e.mapNodes onKind onType) = view e) {a b : Expr}
    (same : a.mapNodes onKind onType = b.mapNodes onKind onType) (path : List Nat) :
    (a.at? path).map view = (b.at? path).map view := by
  have through : ∀ e : Expr, (e.at? path).map view =
      ((e.mapNodes onKind onType).at? path).map view := by
    intro e
    rw [at?_mapNodes, Option.map_map]
    exact congrArg (Option.map · (e.at? path)) (funext fun n => (blind n).symm)
  rw [through a, through b, same]

theorem map_ty_at?_of_unlabeled {a b : Expr} (same : a.unlabeled = b.unlabeled)
    (path : List Nat) : (a.at? path).map ty = (b.at? path).map ty :=
  map_at?_of_mapNodes_eq ty_mapNodes same path

theorem map_kind_at?_of_bare {a b : Expr} (same : a.bare = b.bare) (path : List Nat) :
    (a.at? path).map kind = (b.at? path).map kind :=
  map_at?_of_mapNodes_eq kind_mapNodes same path

/-- Trees that differ in types only have nodes of the same kinds. -/
theorem exists_kind_of_bare_eq {a b n : Expr} (same : a.bare = b.bare) (inside : n ∈ a.nodes) :
    ∃ m ∈ b.nodes, m.kind = n.kind := by
  obtain ⟨path, leads⟩ := mem_nodes_iff_at?.1 inside
  have kinds := map_kind_at?_of_bare same path
  rw [leads] at kinds
  obtain ⟨m, leads', equal⟩ := Option.map_eq_some_iff.1 kinds.symm
  exact ⟨m, mem_nodes_iff_at?.2 ⟨path, leads'⟩, equal⟩

theorem sameAll_iff_forall₂ {as bs : List Expr} :
    sameAll as bs = true ↔ List.Forall₂ (fun a b => (a == b) = true) as bs := by
  induction as generalizing bs with
  | nil => cases bs <;> simp [sameAll]
  | cons a as ih =>
    cases bs with
    | nil => simp [sameAll]
    | cons b bs => rw [sameAll_cons_iff, List.forall₂_cons, ih]

theorem node_beq_iff_forall₂ {k l : Kind} {cs ds : List Expr} {s t : DataType} :
    (node k cs s == node l ds t) = true ↔
      k.unlabeled = l.unlabeled ∧ List.Forall₂ (fun c d => (c == d) = true) cs ds := by
  rw [node_beq_iff, Kind.same_iff, sameAll_iff_forall₂]

/-- Induction over two equal trees, with the hypothesis for children at the same place. -/
@[elab_as_elim]
theorem beq_induction {motive : Expr → Expr → Prop}
    (node : ∀ k l cs ds s t, k.unlabeled = l.unlabeled →
      List.Forall₂ (fun c d => (c == d) = true) cs ds → List.Forall₂ motive cs ds →
      motive (.node k cs s) (.node l ds t))
    {a b : Expr} (same : (a == b) = true) : motive a b := by
  induction a using children_induction generalizing b with
  | node k cs s ih =>
    obtain ⟨l, ds, t⟩ := b
    obtain ⟨kinds, below⟩ := node_beq_iff_forall₂.1 same
    exact node k l cs ds s t kinds below
      (forall₂_imp_of_mem (fun c member d _ equal => ih c member equal) below)

theorem beq_of_bare_eq {a b : Expr} (same : a.bare = b.bare) : (a == b) = true := by
  induction a using children_induction generalizing b with
  | node k cs s ih =>
    obtain ⟨l, ds, t⟩ := b
    obtain ⟨rfl, below⟩ := node_bare_eq_iff.1 same
    exact node_beq_iff_forall₂.2
      ⟨rfl, forall₂_imp_of_mem (fun c member d _ equal => ih c member equal) below⟩

theorem beq_of_unlabeled_eq {a b : Expr} (same : a.unlabeled = b.unlabeled) :
    (a == b) = true := by
  induction a using children_induction generalizing b with
  | node k cs s ih =>
    obtain ⟨l, ds, t⟩ := b
    obtain ⟨kinds, below, -⟩ := node_unlabeled_eq_iff.1 same
    exact node_beq_iff_forall₂.2
      ⟨kinds, forall₂_imp_of_mem (fun c member d _ equal => ih c member equal) below⟩

end Expr
end ScalarSql

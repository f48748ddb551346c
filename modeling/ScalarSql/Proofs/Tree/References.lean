import ScalarSql.Proofs.Tree.Built

/-!
The slot references of a tree, in the order of its nodes. `references` goes over them once
(`references_eq_foldl`), so it keeps the ids it starts from and adds those that are new, each where
it first occurs (`references_eq_append`). Binding asks for the tuple of each reference
(`boundBy_iff`).
-/
namespace ScalarSql

/-- The reference that a node of the kind is, if it is one. -/
def Kind.ref? : Kind → Option SlotRef
  | .slot ref => some ref
  | _ => none

theorem Kind.ref?_eq_some_iff {k : Kind} {ref : SlotRef} : k.ref? = some ref ↔ k = .slot ref := by
  cases k <;> simp [ref?]

section FirstOccurrences
variable {α : Type} [DecidableEq α] {known items added : List α} {x : α}

/-- The item at the end, unless it is there already. -/
def addNew (known : List α) (x : α) : List α := if x ∈ known then known else known ++ [x]

/-- The items that are not known, each once, in the order in which they first occur. -/
structure FirstOccurrences (known items added : List α) : Prop where
  mem_iff : ∀ x, x ∈ added ↔ x ∈ items ∧ x ∉ known
  once : added.Nodup
  ordered : added.Pairwise fun x y => items.idxOf x < items.idxOf y

/-- Another item in front leaves the order of the others as it is. -/
theorem pairwise_idxOf_cons (other : x ∉ added)
    (ordered : added.Pairwise fun y z => items.idxOf y < items.idxOf z) :
    added.Pairwise fun y z => (x :: items).idxOf y < (x :: items).idxOf z := by
  refine ordered.imp_of_mem fun {y z} left right before => ?_
  have first : x ≠ y := fun same => other (same ▸ left)
  have second : x ≠ z := fun same => other (same ▸ right)
  rw [List.idxOf_cons_ne items first, List.idxOf_cons_ne items second]
  exact Nat.succ_lt_succ before

theorem FirstOccurrences.cons_known (old : x ∈ known) (first : FirstOccurrences known items added) :
    FirstOccurrences known (x :: items) added where
  mem_iff y := by
    rw [first.mem_iff, List.mem_cons]
    have different : y ∉ known → y ≠ x := fun unknown same => unknown (same ▸ old)
    tauto
  once := first.once
  ordered := pairwise_idxOf_cons (fun member => ((first.mem_iff x).1 member).2 old) first.ordered

theorem FirstOccurrences.cons_new (new : x ∉ known)
    (first : FirstOccurrences (known ++ [x]) items added) :
    FirstOccurrences known (x :: items) (x :: added) := by
  have other : x ∉ added := fun member => ((first.mem_iff x).1 member).2 (by simp)
  refine ⟨fun y => ?_, List.nodup_cons.2 ⟨other, first.once⟩, List.pairwise_cons.2 ⟨?_, ?_⟩⟩
  · rw [List.mem_cons, List.mem_cons, first.mem_iff, List.mem_append, List.mem_singleton]
    have unknown : y = x → y ∉ known := fun same => same ▸ new
    tauto
  · intro y member
    have different : x ≠ y := fun same => other (same ▸ member)
    rw [List.idxOf_cons_self, List.idxOf_cons_ne items different]
    exact Nat.succ_pos _
  · exact pairwise_idxOf_cons other first.ordered

theorem foldl_addNew (known items : List α) :
    ∃ added, items.foldl addNew known = known ++ added ∧ FirstOccurrences known items added := by
  induction items generalizing known with
  | nil => exact ⟨[], (List.append_nil known).symm, by simp, .nil, .nil⟩
  | cons x items ih =>
    rw [List.foldl_cons]
    by_cases old : x ∈ known
    · obtain ⟨added, folded, first⟩ := ih known
      refine ⟨added, ?_, first.cons_known old⟩
      rw [addNew, if_pos old, folded]
    · obtain ⟨added, folded, first⟩ := ih (known ++ [x])
      refine ⟨x :: added, ?_, first.cons_new old⟩
      rw [addNew, if_neg old, folded, List.append_assoc, List.singleton_append]

end FirstOccurrences

namespace Expr

/-- The slot references of the tree, in the order of its nodes. -/
def refs (e : Expr) : List SlotRef := e.nodes.filterMap (·.kind.ref?)

theorem refs_node (kind : Kind) (children : List Expr) (ty : DataType) :
    (node kind children ty).refs = kind.ref?.toList ++ children.flatMap refs := by
  have below : (children.flatMap nodes).filterMap (·.kind.ref?) = children.flatMap refs :=
    List.filterMap_flatMap ..
  rw [refs, nodes_node, List.filterMap_cons, kind_node, below]
  cases kind.ref? <;> rfl

theorem mem_refs {e : Expr} {ref : SlotRef} : ref ∈ e.refs ↔ ∃ n ∈ e.nodes, n.kind = .slot ref := by
  simp only [refs, List.mem_filterMap, Kind.ref?_eq_some_iff]

/-- All slot references of the tree have the property. -/
def EachRef (P : SlotRef → Prop) (e : Expr) : Prop :=
  ∀ n ∈ e.nodes, ∀ ref, n.kind = .slot ref → P ref

theorem eachRef_node {P : SlotRef → Prop} {kind : Kind} {children : List Expr} {ty : DataType} :
    (node kind children ty).EachRef P ↔
      (∀ ref, kind = .slot ref → P ref) ∧ ∀ c ∈ children, c.EachRef P :=
  forall_nodes_node

theorem eachRef_slot {P : SlotRef → Prop} {ref : SlotRef} : (slot ref).EachRef P ↔ P ref := by
  simp [slot, untyped, eachRef_node]

theorem eachRef_iff {P : SlotRef → Prop} {e : Expr} : e.EachRef P ↔ ∀ ref ∈ e.refs, P ref := by
  simp only [mem_refs]
  exact ⟨fun each ref ⟨n, inside, same⟩ => each n inside ref same,
    fun each n inside ref same => each ref ⟨n, inside, same⟩⟩

/-- A tree is bound if the tuple of each reference is among the tuples. -/
theorem boundBy_iff {tuples : List TupleId} {e : Expr} (fits : e.FitsArity) :
    e.boundBy tuples = true ↔ e.EachRef fun ref => ref.tuple ∈ tuples := by
  induction e using children_induction with
  | node kind children ty ih =>
    obtain ⟨own, below⟩ := fitsArity_node.1 fits
    have inner : children.all (boundBy tuples) = true ↔
        ∀ c ∈ children, c.EachRef fun ref => ref.tuple ∈ tuples := by
      rw [List.all_eq_true]
      exact forall₂_congr fun c member => ih c member (below c member)
    rw [boundBy_node, eachRef_node, ← inner]
    cases kind with
    | slot ref =>
      obtain rfl := List.length_eq_zero_iff.1 own
      simp [Kind.boundBy]
    | _ => simp [Kind.boundBy]

theorem addKind_eq_foldl (start : References) (kind : Kind) :
    start.addKind kind = kind.ref?.toList.foldl References.add start := by
  cases kind <;> rfl

theorem references_eq_foldl (e : Expr) (start : References) :
    e.references start = e.refs.foldl References.add start := by
  induction e using children_induction generalizing start with
  | node kind children ty ih =>
    rw [references_node, refs_node, List.foldl_append, addKind_eq_foldl, List.foldl_flatMap]
    exact foldl_eq_of_forall₂ (List.forall₂_same.2 fun c member => ih c member) _

/-- Tuples and slots are added apart from each other. -/
theorem foldl_add (refs : List SlotRef) (start : References) :
    refs.foldl References.add start =
      ⟨(refs.map (·.tuple)).foldl addNew start.tuples,
        (refs.map (·.slot)).foldl addNew start.slots⟩ := by
  induction refs generalizing start with
  | nil => rfl
  | cons ref refs ih =>
    rw [List.foldl_cons, ih]
    rfl

/-- The ids to start from stay in front; behind them come the new ones of the tree. -/
theorem references_eq_append (e : Expr) (start : References) :
    ∃ tuples slots, e.references start = ⟨start.tuples ++ tuples, start.slots ++ slots⟩ ∧
      FirstOccurrences start.tuples (e.refs.map (·.tuple)) tuples ∧
      FirstOccurrences start.slots (e.refs.map (·.slot)) slots := by
  obtain ⟨tuples, foldTuples, firstTuples⟩ := foldl_addNew start.tuples (e.refs.map (·.tuple))
  obtain ⟨slots, foldSlots, firstSlots⟩ := foldl_addNew start.slots (e.refs.map (·.slot))
  refine ⟨tuples, slots, ?_, firstTuples, firstSlots⟩
  rw [references_eq_foldl, foldl_add, foldTuples, foldSlots]

theorem mem_tuples_references {e : Expr} {id : TupleId} :
    id ∈ (e.references {}).tuples ↔ ∃ ref ∈ e.refs, ref.tuple = id := by
  obtain ⟨tuples, slots, found, first, -⟩ := references_eq_append e {}
  simp [found, first.mem_iff]

theorem mem_slots_references {e : Expr} {id : SlotId} :
    id ∈ (e.references {}).slots ↔ ∃ ref ∈ e.refs, ref.slot = id := by
  obtain ⟨tuples, slots, found, -, first⟩ := references_eq_append e {}
  simp [found, first.mem_iff]

end Expr
end ScalarSql

import ScalarSql.Proofs.Analysis.Analyzed
import ScalarSql.Proofs.Analysis.Congruence
import ScalarSql.Proofs.Scope.Materialize
import ScalarSql.Proofs.Typing.Rules

/-!
Materializing the aggregates of an analysed list. The new list has no aggregates left, is accepted
over the grown scope, and has the types that it had before. The types above a replacement are not
touched by it and still right, since a reference has the type of what it replaces.
-/
namespace ScalarSql

namespace Analyzer

variable {a b : Analyzer}

/-- A reference has the type of its slot. -/
theorem rule_fresh {s : Scope} {tuple : TupleId} {ty : DataType} {ref : SlotRef}
    (fresh : s.Fresh a.scope tuple ty ref) (valid : ty.isValid = true) (children : List Expr) :
    a.rule (.slot ref) children = .ok ty := by
  obtain ⟨slot, found, -, rfl⟩ := fresh.typed
  exact (slotType_ok_iff a).2 (.slot found (DataType.isValid_iff.1 valid))

/-- Of the children of anything but an aggregate a rule reads the types only, and of the scope the
slots that it finds. -/
theorem rule_of_retains (functions : b.functions = a.functions) (kept : b.scope.Retains a.scope)
    {kind : Kind} {cs ds : List Expr} {t : DataType} (plain : kind.shape ≠ .aggregate)
    (types : ds.map Expr.ty = cs.map Expr.ty) (typed : a.rule kind cs = .ok t) :
    b.rule kind ds = .ok t := by
  unfold rule at typed ⊢
  rw [types]
  cases kind with
  | slot ref =>
    cases (slotType_ok_iff a).1 typed with
    | slot found valid => exact (slotType_ok_iff b).2 (.slot (kept _ _ found) valid)
  | comparison op =>
    dsimp only at typed ⊢
    split at typed
    next => exact typed
    next => cases typed
  | membership negated =>
    dsimp only at typed ⊢
    split at typed
    next => cases typed
    next => exact typed
  | range negated =>
    dsimp only at typed ⊢
    split at typed
    next => cases typed
    next => exact typed
  | call name => rw [functions]; exact typed
  | aggregate op distinct => exact absurd rfl plain
  | _ => exact typed

end Analyzer

namespace Scope

/-- What stands at a place after materializing. An aggregate gives way to a reference to a new slot
of its type; any other node keeps its kind, its type and as many children. -/
def Becomes (s grown : Scope) (tuple : TupleId) (before after : Expr) : Prop :=
  after.ty = before.ty ∧
    if before.shape = .aggregate then
      after.children = [] ∧ ∃ ref, after.kind = .slot ref ∧ s.Fresh grown tuple before.ty ref
    else after.kind = before.kind ∧ after.children.length = before.children.length

theorem Becomes.not_aggregate {s grown : Scope} {tuple : TupleId} {before after : Expr}
    (becomes : s.Becomes grown tuple before after) : after.shape ≠ .aggregate := by
  obtain ⟨-, place⟩ := becomes
  unfold Expr.shape
  by_cases aggregate : before.shape = .aggregate
  · rw [if_pos aggregate] at place
    obtain ⟨-, ref, reference, -⟩ := place
    rw [reference]
    exact nofun
  · rw [if_neg aggregate] at place
    rw [place.1]
    exact aggregate

section Replacing
variable {a : Analyzer} {typed : List Expr} {tuple : TupleId} {grown : Scope} {m : Substitution}
variable (settled : ∀ t ∈ typed, a.Settled t)
variable (stored : List.Forall₂ (a.scope.Stored grown tuple) (Expr.collectAll .aggregate typed)
  m.pairs)
include settled stored

/-- Exactly the aggregates are replaced. Where the slot was made for an equal aggregate it still has
the right type, since analysis gives equal trees equal types. -/
theorem get?_node {t n : Expr} (member : t ∈ typed) (inside : n ∈ t.nodes) :
    (n.shape ≠ .aggregate ∧ m.get? n = none) ∨
      (n.shape = .aggregate ∧
        ∃ ref, m.get? n = some (.slot ref) ∧ a.scope.Fresh grown tuple n.ty ref) := by
  cases found : m.get? n with
  | none =>
    left
    refine ⟨?_, rfl⟩
    intro aggregate
    have collected := Expr.mem_collectAll.2 ⟨t, member, inside, aggregate⟩
    obtain ⟨put, place, rfl, -⟩ := exists_mem_of_forall₂ stored.flip collected
    exact Substitution.get?_ne_none place found
  | some r =>
    right
    obtain ⟨put, place, same, rfl⟩ := Substitution.exists_pair_of_get? found
    obtain ⟨e, collected, rfl, ref, reference, fresh⟩ := exists_mem_of_forall₂ stored place
    obtain ⟨t', member', inside', aggregate⟩ := Expr.mem_collectAll.1 collected
    have left := Analyzer.settled_of_mem_nodes (settled t' member') inside'
    have right := Analyzer.settled_of_mem_nodes (settled t member) inside
    have types := Expr.ty_eq_of_unlabeled (Analyzer.relabeled_of_settled same left right)
    rw [types] at fresh
    exact ⟨Expr.shape_eq_of_beq same ▸ aggregate, ref, congrArg some reference, fresh⟩

theorem becomes_rewrite {t n : Expr} (member : t ∈ typed) (inside : n ∈ t.nodes) :
    a.scope.Becomes grown tuple n (n.rewrite m.retyped) := by
  refine ⟨m.rewrite_retyped_ty n, ?_⟩
  rcases get?_node settled stored member inside with
    ⟨plain, missing⟩ | ⟨aggregate, ref, found, fresh⟩
  · obtain ⟨kind, children, ty⟩ := n
    rw [if_neg plain, Substitution.rewrite_retyped_of_none missing]
    exact ⟨rfl, List.length_map _⟩
  · rw [if_pos aggregate, Substitution.rewrite_retyped_of_some found]
    exact ⟨rfl, ref, rfl, fresh⟩

/-- A path through the new tree leads to what the node of the old one there has become. -/
theorem at?_becomes {t n : Expr} (member : t ∈ typed) {path : List Nat}
    (leads : (t.rewrite m.retyped).at? path = some n) :
    ∃ o, t.at? path = some o ∧ a.scope.Becomes grown tuple o n := by
  have leaves := Substitution.leaves_retyped (leaves_of_stored stored)
  obtain ⟨o, before, rfl⟩ := Expr.at?_rewrite leaves leads
  have inside := Expr.mem_nodes_iff_at?.2 ⟨path, before⟩
  exact ⟨o, before, becomes_rewrite settled stored member inside⟩

/-- The kinds are those that substituting gives. -/
theorem exists_becomes {t n : Expr} (member : t ∈ typed) (inside : n ∈ (t.substitute m).nodes) :
    ∃ o ∈ t.nodes, ∃ after, a.scope.Becomes grown tuple o after ∧ after.kind = n.kind := by
  obtain ⟨after, found, kind⟩ := Expr.exists_kind_of_bare_eq (m.rewrite_retyped_bare t) inside
  obtain ⟨path, leads⟩ := Expr.mem_nodes_iff_at?.1 found
  obtain ⟨o, before, becomes⟩ := at?_becomes settled stored member leads
  exact ⟨o, Expr.mem_nodes_iff_at?.2 ⟨path, before⟩, after, becomes, kind⟩

theorem contains_aggregate_substitute {t : Expr} (member : t ∈ typed) :
    (t.substitute m).contains .aggregate = false := by
  rw [Expr.contains_eq_false_iff]
  intro n inside
  obtain ⟨o, -, after, becomes, kind⟩ := exists_becomes settled stored member inside
  have plain := becomes.not_aggregate
  rwa [Expr.shape, kind] at plain

theorem slot_substitute {t n : Expr} (member : t ∈ typed) (inside : n ∈ (t.substitute m).nodes)
    {ref : SlotRef} (reference : n.kind = .slot ref) :
    (∃ ty, a.scope.Fresh grown tuple ty ref) ∨ ∃ o ∈ t.nodes, o.kind = .slot ref := by
  obtain ⟨o, before, after, ⟨-, place⟩, kind⟩ := exists_becomes settled stored member inside
  rw [kind, reference] at place
  by_cases aggregate : o.shape = .aggregate
  · rw [if_pos aggregate] at place
    obtain ⟨-, ref', same, fresh⟩ := place
    cases same
    exact Or.inl ⟨_, fresh⟩
  · rw [if_neg aggregate] at place
    exact Or.inr ⟨o, before, place.1.symm⟩

end Replacing

/-- The rewritten list is settled over the grown scope. -/
theorem settled_rewrite {a b : Analyzer} {typed : List Expr} {tuple : TupleId} {m : Substitution}
    (functions : b.functions = a.functions) (kept : b.scope.Retains a.scope)
    (settled : ∀ t ∈ typed, a.Settled t)
    (stored : List.Forall₂ (a.scope.Stored b.scope tuple) (Expr.collectAll .aggregate typed)
      m.pairs) {t : Expr} (member : t ∈ typed) : b.Settled (t.rewrite m.retyped) := by
  intro n inside
  have leaves := Substitution.leaves_retyped (leaves_of_stored stored)
  obtain ⟨o, before, rfl⟩ := Expr.mem_nodes_rewrite leaves inside
  have rule := settled t member o before
  rcases get?_node settled stored member before with
    ⟨plain, missing⟩ | ⟨aggregate, ref, found, fresh⟩
  · obtain ⟨kind, children, ty⟩ := o
    have types : (children.map (Expr.rewrite m.retyped)).map Expr.ty = children.map Expr.ty := by
      rw [List.map_map]
      exact List.map_congr_left fun c _ => m.rewrite_retyped_ty c
    rw [Substitution.rewrite_retyped_of_none missing]
    exact Analyzer.rule_of_retains functions kept plain types rule
  · rw [Substitution.rewrite_retyped_of_some found]
    exact Analyzer.rule_fresh fresh (Analyzer.isValid_of_aggregateRule aggregate rule) []

end Scope

namespace Analyzer

/-- Every tree that analysis of a list leaves is settled, within the limits, and has the kinds of
the tree it was made from. -/
theorem forall₂_of_analyzeAll {a : Analyzer} {es : List Expr}
    (success : (a.analyzeAll es).failure = none) :
    List.Forall₂ (fun e t => e.bare = t.bare ∧ a.Settled t ∧ t.DepthAtMost a.limits.maxDepth ∧
      t.WidthAtMost a.limits.maxChildren) es (a.analyzeAll es).result := by
  refine (analyzeAll_ok_iff.1 ⟨success, rfl⟩).imp ?_
  rintro e t ⟨accepted, rfl⟩
  obtain ⟨kinds, settled, -, -⟩ := analyze_ok_iff.1 ⟨accepted, rfl⟩
  obtain ⟨-, -, deep, wide⟩ := analyze_ok_iff.1 (analyze_again accepted)
  exact ⟨kinds, settled, deep, wide⟩

/-- Over the grown scope the new list is accepted, and its nodes keep the types they stand for. -/
theorem analyzeAll_substituted (a b : Analyzer) {typed : List Expr} {tuple : TupleId}
    {m : Substitution} (functions : b.functions = a.functions) (limits : b.limits = a.limits)
    (kept : b.scope.Retains a.scope)
    (each : ∀ t ∈ typed, a.Settled t ∧ t.DepthAtMost a.limits.maxDepth ∧
      t.WidthAtMost a.limits.maxChildren)
    (stored : List.Forall₂ (a.scope.Stored b.scope tuple) (Expr.collectAll .aggregate typed)
      m.pairs) :
    (b.analyzeAll (Expr.substituteAll m typed)).failure = none ∧
      (b.analyzeAll (Expr.substituteAll m typed)).result = typed.map (Expr.rewrite m.retyped) := by
  have leaves := Scope.leaves_of_stored stored
  rw [analyzeAll_ok_iff, Expr.substituteAll, Expr.rewriteAll_eq_map, List.forall₂_map_left_iff,
    List.forall₂_map_right_iff]
  refine List.forall₂_same.2 ?_
  intro t member
  obtain ⟨-, deep, wide⟩ := each t member
  refine analyze_ok_iff.2 ⟨m.rewrite_retyped_bare t, ?_, ?_, ?_⟩
  · exact Scope.settled_rewrite functions kept (fun u inside => (each u inside).1) stored member
  · rw [limits]
    exact Expr.depthAtMost_rewrite leaves deep
  · rw [limits]
    exact Expr.widthAtMost_rewrite leaves wide

/-- Materializing the aggregates of an accepted list works whenever there are ids for their slots.
No aggregate is left, every reference is new or was there, and the new list is accepted over the
grown scope with the types that the old one had, place by place. -/
theorem materialize_aggregates (a : Analyzer) (es : List Expr)
    (success : (a.analyzeAll es).failure = none) :
    let typed := (a.analyzeAll es).result
    let aggregates := Expr.collectAll .aggregate typed
    ((∃ made, a.scope.materialize aggregates = .ok made) ↔ a.scope.tuples.length < idLimit ∧
      (aggregates ≠ [] → a.scope.slots.length + aggregates.length ≤ idLimit)) ∧
    ∀ tuple grown m, a.scope.materialize aggregates = .ok (tuple, grown, m) →
      let reduced := Expr.substituteAll m typed
      let again := analyzeAll { a with scope := grown } reduced
      a.scope.tuple? tuple = none ∧
      (∀ r ∈ reduced, r.contains .aggregate = false) ∧
      List.Forall₂ (fun e r => ∀ n ∈ r.nodes, ∀ ref, n.kind = .slot ref →
        (∃ ty, a.scope.Fresh grown tuple ty ref) ∨ ∃ o ∈ e.nodes, o.kind = .slot ref) es reduced ∧
      again.failure = none ∧
      List.Forall₂ (fun t r => ∀ path n, r.at? path = some n →
        ∃ o, t.at? path = some o ∧ a.scope.Becomes grown tuple o n) typed again.result ∧
      again.result.map Expr.ty = typed.map Expr.ty := by
  intro typed aggregates
  refine ⟨Scope.materialize_isOk_iff, ?_⟩
  intro tuple grown m made reduced again
  obtain ⟨unknown, kept, stored⟩ := Scope.materialize_stored made
  have analysed := forall₂_of_analyzeAll success
  have each : ∀ t ∈ typed, a.Settled t ∧ t.DepthAtMost a.limits.maxDepth ∧
      t.WidthAtMost a.limits.maxChildren := by
    intro t member
    obtain ⟨_, -, -, left⟩ := exists_mem_of_forall₂ analysed member
    exact left
  have settled : ∀ t ∈ typed, a.Settled t := fun t member => (each t member).1
  have replaced : reduced = typed.map (Expr.substitute m) := Expr.rewriteAll_eq_map m.get? typed
  obtain ⟨accepted, result⟩ :=
    analyzeAll_substituted a { a with scope := grown } rfl rfl kept each stored
  refine ⟨unknown, ?_, ?_, accepted, ?_, ?_⟩
  · intro r inside
    rw [replaced] at inside
    obtain ⟨t, member, rfl⟩ := List.mem_map.1 inside
    exact Scope.contains_aggregate_substitute settled stored member
  · rw [replaced, List.forall₂_map_right_iff]
    refine forall₂_imp_of_mem ?_ analysed
    rintro e - t member ⟨kinds, -⟩ n found ref reference
    rcases Scope.slot_substitute settled stored member found reference with new | ⟨o, old, kind⟩
    · exact Or.inl new
    · obtain ⟨o', original, kind'⟩ := Expr.exists_kind_of_bare_eq kinds.symm old
      exact Or.inr ⟨o', original, kind'.trans kind⟩
  · rw [result, List.forall₂_map_right_iff]
    refine List.forall₂_same.2 ?_
    intro t member path n leads
    exact Scope.at?_becomes settled stored member leads
  · rw [result, List.map_map]
    exact List.map_congr_left fun t _ => m.rewrite_retyped_ty t

/-- Two sums of one slot under two labels, one of them beside a count, are both materialized. -/
theorem equal_sums_materialized :
    let x : Slot := { id := ⟨1, 0⟩, parent := ⟨1, 0⟩, ty := .int }
    let scope : Scope :=
      { number := 1, tuples := [{ id := x.parent, slots := [x.id] }], slots := [x] }
    let a : Analyzer := { scope }
    let sum (label : Option String) : Expr :=
      .aggregate .sum (.slot ⟨x.parent, x.id, label⟩) false
    let es : List Expr := [.arithmetic .divide (sum none) .countStar,
      .comparison .gt (sum (some "t.x")) (.literal (.int 3))]
    (a.analyzeAll es).failure = none ∧
    ∃ tuple grown m,
      scope.materialize (Expr.collectAll .aggregate (a.analyzeAll es).result) =
        .ok (tuple, grown, m) ∧
      (analyzeAll { a with scope := grown }
        (Expr.substituteAll m (a.analyzeAll es).result)).failure = none ∧
      (analyzeAll { a with scope := grown }
        (Expr.substituteAll m (a.analyzeAll es).result)).result.map Expr.ty =
          [.double, .boolean] := by
  intro x scope a sum es
  have success : (a.analyzeAll es).failure = none := by decide
  obtain ⟨works, right⟩ := materialize_aggregates a es success
  obtain ⟨⟨tuple, grown, m⟩, made⟩ := works.2 (by decide)
  obtain ⟨-, -, -, accepted, -, types⟩ := right tuple grown m made
  refine ⟨success, tuple, grown, m, made, accepted, types.trans ?_⟩
  decide

end Analyzer
end ScalarSql

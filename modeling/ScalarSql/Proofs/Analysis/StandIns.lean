import ScalarSql.Proofs.Analysis.Substitute
import ScalarSql.Proofs.Typing.Classes

/-!
Replacing what a tree computes by what can stand in for it. With the functions of every query, no
rule refuses a child whose type stands in for one that it takes, so a tree stays accepted when
subtrees give way to NULL or to trees of the class of their types (`replaced_accepted`).
-/
namespace ScalarSql

open DataType

theorem forall₂_getD {α β : Type} {R : α → β → Prop} {as : List α} {bs : List β}
    (related : List.Forall₂ R as bs) {x : α} {y : β} (default : R x y) (i : Nat) :
    R (as.getD i x) (bs.getD i y) := by
  induction related generalizing i with
  | nil => exact default
  | cons first _ ih =>
    cases i with
    | zero => exact first
    | succ i => exact ih i

namespace Analyzer

variable {a : Analyzer}

/-- What a rule makes of types, it makes of those that stand in for them. -/
theorem rule_covers (builtin : a.functions = Builtin.functions) {kind : Kind} {cs ds : List Expr}
    {t : DataType} (stand : List.Forall₂ (fun d c => d.ty.StandsFor c.ty) ds cs)
    (apart : Expr.anyContains .aggregate (cs.take 1) = false →
      Expr.anyContains .aggregate (ds.take 1) = false)
    (typed : a.rule kind cs = .ok t) : ∃ t', a.rule kind ds = .ok t' ∧ t'.StandsFor t := by
  have types : List.Forall₂ StandsFor (ds.map Expr.ty) (cs.map Expr.ty) := by
    rwa [List.forall₂_map_left_iff, List.forall₂_map_right_iff]
  have left := forall₂_getD types (.refl .invalid) 0
  have right := forall₂_getD types (.refl .invalid) 1
  unfold rule at typed ⊢
  generalize ds.map Expr.ty = new, cs.map Expr.ty = old at types left right typed ⊢
  cases kind with
  | slot _ | literal _ | nullTest _ => exact ⟨t, typed, .refl t⟩
  | arithmetic op | pattern op =>
    obtain ⟨t', typed', stands⟩ := op.result?_covers left right t (orFail_ok_iff.1 typed)
    exact ⟨t', orFail_ok_iff.2 typed', stands⟩
  | comparison op =>
    dsimp only at typed ⊢
    split at typed
    next c found =>
      cases typed
      obtain ⟨t', typed', stands⟩ := op.result?_covers left right t found
      rw [typed']
      exact ⟨t', rfl, stands⟩
    next => cases typed
  | connective op =>
    dsimp only at typed ⊢
    split at typed
    next => cases typed
    next accepted =>
      rw [op.find?_refused_of_standsFor types accepted]
      exact ⟨t, typed, .refl t⟩
  | membership _ | range _ =>
    dsimp only at typed ⊢
    split at typed
    next => cases typed
    next compatible =>
      rw [find?_incompatible_of_standsFor left (List.forall₂_drop 1 types) compatible]
      exact ⟨t, typed, .refl t⟩
  | cast target =>
    dsimp only at typed ⊢
    split at typed
    next castable =>
      rw [if_pos (left.castableTo castable)]
      exact ⟨t, typed, .refl t⟩
    next => cases typed
  | call name =>
    rw [builtin] at typed ⊢
    obtain ⟨t', typed', stands⟩ := Builtin.functions_cover name types t (orFail_ok_iff.1 typed)
    exact ⟨t', orFail_ok_iff.2 typed', stands⟩
  | aggregate op distinct =>
    dsimp only at typed ⊢
    split at typed
    next => cases typed
    next alone =>
      rw [if_neg (Bool.eq_false_iff.1 (apart (Bool.eq_false_iff.2 alone)))]
      obtain ⟨t', typed', stands⟩ := op.result?_head?_covers types t (orFail_ok_iff.1 typed)
      exact ⟨t', orFail_ok_iff.2 typed', stands⟩

/-- Analysis puts no node of any shape where there was none. -/
theorem anyContains_analyzed (a : Analyzer) (shape : Shape) (cs : List Expr) (n : Nat) :
    Expr.anyContains shape ((cs.map fun c => (a.analyze c).result).take n) =
      Expr.anyContains shape (cs.take n) := by
  have each : ∀ c : Expr, (a.analyze c).result.contains shape = c.contains shape :=
    fun c => Expr.contains_congr shape (Expr.beq_of_bare_eq (a.walk_result_bare 1 c))
  simp only [← List.map_take, Expr.anyContains_eq_any, List.any_map, Function.comp_def, each]

/-- The replacement is accepted, without aggregates, and its type is NULL or of the class of the
type that analysis gives the pattern, if it gives one. -/
structure Suits (a : Analyzer) (pattern replacement : Expr) : Prop where
  plain : replacement.contains .aggregate = false
  accepted : (a.analyze replacement).failure = none
  type : (a.analyze replacement).result.ty = .null ∨ ((a.analyze pattern).failure = none →
    (a.analyze replacement).result.ty.inClassOf (a.analyze pattern).result.ty = true)

theorem Suits.of_beq {pattern e r : Expr} (suits : a.Suits pattern r)
    (same : (pattern == e) = true) : a.Suits e r where
  plain := suits.plain
  accepted := suits.accepted
  type := by
    refine suits.type.imp_right fun class_of success => ?_
    have accepted := (a.analyze_agree same).failure_eq_none_iff.2 success
    rw [← analyze_ty_eq same accepted]
    exact class_of accepted

/-- Exchanging subtrees of an accepted tree for suitable ones gives an accepted tree. -/
theorem exchanged_accepted (builtin : a.functions = Builtin.functions) {e r : Expr}
    (success : (a.analyze e).failure = none) (exchanged : Expr.Exchanged a.Suits e r)
    (deep : r.DepthAtMost a.limits.maxDepth) :
    (a.analyze r).failure = none ∧
      (a.analyze r).result.ty.StandsFor (a.analyze e).result.ty := by
  revert success deep
  refine Expr.Exchanged.induction ?_ ?_ exchanged
  · intro e r suits success _
    exact ⟨suits.accepted, suits.type.imp_right fun class_of => class_of success⟩
  · intro kind cs ds ty inner children success deep
    obtain ⟨⟨-, narrow⟩, succeed, resolved, rule, left⟩ := analyze_node_ok_iff.1 ⟨success, rfl⟩
    have each : List.Forall₂ (fun c d => (a.analyze d).failure = none ∧
        (a.analyze d).result.ty.StandsFor (a.analyze c).result.ty) cs ds := by
      refine forall₂_imp_of_mem (fun c member d inside kept => ?_) children
      have shallow := ((Expr.depthAtMost_node.1 deep).2 d inside).mono (Nat.sub_le _ _)
      exact kept (succeed c member) shallow
    have stand : List.Forall₂ (fun d c => d.ty.StandsFor c.ty)
        (ds.map fun d => (a.analyze d).result) (cs.map fun c => (a.analyze c).result) := by
      rw [List.forall₂_map_left_iff, List.forall₂_map_right_iff]
      exact (each.imp fun _ _ kept => kept.2).flip
    have apart := Expr.Exchanged.anyContains_take_eq_false (fun _ _ suits => suits.plain) inner 1
    rw [← a.anyContains_analyzed, ← a.anyContains_analyzed .aggregate ds] at apart
    obtain ⟨resolved', rule', stands⟩ := rule_covers builtin stand apart rule
    have accepted : ∀ d ∈ ds, (a.analyze d).failure = none := by
      intro d inside
      obtain ⟨c, -, kept⟩ := exists_mem_of_forall₂ each inside
      exact kept.1
    obtain ⟨done, result⟩ := analyze_node_ok_iff.2
      ⟨⟨deep, children.length_eq ▸ narrow⟩, accepted, resolved', rule', rfl⟩
    refine ⟨done, ?_⟩
    rw [left, result]
    exact stands

/-- NULL suits every place, wherever analysis accepts anything at all. -/
theorem suits_null (deep : 1 ≤ a.limits.maxDepth) (e : Expr) : a.Suits e (.literal .null) := by
  have leaf : (a.analyze (.node (.literal .null) [] .invalid)).failure = none ∧
      (a.analyze (.node (.literal .null) [] .invalid)).result = .node (.literal .null) [] .null :=
    analyze_node_ok_iff.2 ⟨⟨Expr.depthAtMost_node.2 ⟨deep, List.forall_mem_nil _⟩, Nat.zero_le _⟩,
      List.forall_mem_nil _, .null, rfl, rfl⟩
  exact ⟨rfl, leaf.1, Or.inl (congrArg Expr.ty leaf.2)⟩

/-- With the functions of every query, substituting in an accepted tree what suits the patterns
gives an accepted tree, if it is not too deep, whose type stands in for the one that the tree had.
So does putting NULL in the place of any subtrees. -/
theorem replaced_accepted {a : Analyzer} (builtin : a.functions = Builtin.functions) {e : Expr}
    {m : Substitution} (success : (a.analyze e).failure = none)
    (suits : ∀ p ∈ m.pairs, a.Suits p.1 p.2) :
    ((e.substitute m).DepthAtMost a.limits.maxDepth →
      (a.analyze (e.substitute m)).failure = none ∧
        (a.analyze (e.substitute m)).result.ty.StandsFor (a.analyze e).result.ty) ∧
    ∀ r, Expr.Exchanged (fun _ new => new = .literal .null) e r →
      (a.analyze r).failure = none ∧
        (a.analyze r).result.ty.StandsFor (a.analyze e).result.ty := by
  obtain ⟨-, -, deep, -⟩ := analyze_ok_iff.1 ⟨success, rfl⟩
  constructor
  · refine exchanged_accepted builtin success (Expr.exchanged_rewrite ?_ e)
    intro n r found
    obtain ⟨put, member, same, rfl⟩ := Substitution.exists_pair_of_get? found
    exact (suits put member).of_beq same
  · intro r exchanged
    refine exchanged_accepted builtin success (exchanged.mono ?_) (exchanged.depthAtMost ?_ deep)
    · rintro e r rfl
      exact suits_null (deep [] _ rfl) e
    · rintro e r rfl
      rfl

/-- A number gives way to an integer, a date to another date, and an argument of a function to NULL,
so that the function has another type, still in the class. -/
theorem sum_of_stand_ins_accepted :
    let x : Slot := { id := ⟨1, 0⟩, parent := ⟨1, 0⟩, ty := .double }
    let d : Slot := { id := ⟨1, 1⟩, parent := ⟨1, 0⟩, ty := .date }
    let t : Slot := { id := ⟨1, 2⟩, parent := ⟨1, 0⟩, ty := .timestamp }
    let a : Analyzer := { scope := { number := 1, slots := [x, d, t] } }
    let ref (s : Slot) : Expr := .slot ⟨s.parent, s.id, none⟩
    let total (x d : Expr) : Expr := .aggregate .sum
      (.arithmetic .add (.call "abs" [x]) (.arithmetic .multiply x (.call "year" [d]))) false
    let e := total (ref x) (ref d)
    let m : Substitution := ⟨[(.call "abs" [ref x], .call "abs" [.literal .null]),
      (ref x, .literal (.int 300)), (ref d, ref t)]⟩
    (∀ p ∈ m.pairs, a.Suits p.1 p.2) ∧ (a.analyze e).result.ty = .double ∧
      (a.analyze (e.substitute m)).failure = none ∧
      (a.analyze (e.substitute m)).result.ty = .bigInt ∧
      (a.analyze (total (.literal .null) (ref d))).failure = none := by
  intro x d t a ref total e m
  have suits : ∀ p ∈ m.pairs, a.Suits p.1 p.2 := by
    simp only [m, List.forall_mem_cons, List.not_mem_nil, false_implies, implies_true, and_true]
    exact ⟨⟨by decide, by decide +kernel, Or.inr fun _ => by decide +kernel⟩,
      ⟨by decide, by decide, Or.inr fun _ => by decide⟩,
      ⟨by decide, by decide, Or.inr fun _ => by decide⟩⟩
  have success : (a.analyze e).failure = none := by decide +kernel
  have accepted : (a.analyze (e.substitute m)).failure = none := by decide +kernel
  have deep : (e.substitute m).DepthAtMost a.limits.maxDepth :=
    (analyze_ok_iff.1 ⟨accepted, rfl⟩).2.2.1
  obtain ⟨substituted, nulled⟩ := replaced_accepted rfl success suits
  refine ⟨suits, by decide +kernel, (substituted deep).1, by decide +kernel, ?_⟩
  have product : Expr.Exchanged (fun _ new => new = .literal .null)
      (.arithmetic .multiply (ref x) (.call "year" [ref d]))
      (.arithmetic .multiply (.literal .null) (.call "year" [ref d])) :=
    .inside (.cons (.here rfl) (.cons (.refl _) .nil))
  have first : Expr.Exchanged (fun _ new => new = .literal .null)
      (.call "abs" [ref x]) (.call "abs" [.literal .null]) :=
    .inside (.cons (.here rfl) .nil)
  exact (nulled _ (.inside (.cons (.inside (.cons first (.cons product .nil))) .nil))).1

end Analyzer
end ScalarSql

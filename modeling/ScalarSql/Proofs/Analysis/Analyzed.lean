import ScalarSql.Proofs.Analysis.Success
import ScalarSql.Proofs.Typing.Classes
import ScalarSql.Proofs.Typing.Rules

/-!
Which nodes have a type after a successful analysis. Every rule but the one for calls gives a type
other than `invalid`, also where it looks past the types of the children. The type of a call is the
answer of the functions, which is taken as it is. So all nodes are analyzed if the functions answer
with types, as the functions of every query do, and a call answered with `invalid` is the one
exception, unseen from a root such as IS NULL (`unanalyzed_iff_answered_invalid`).
-/
namespace ScalarSql

/-- Asked about types, the functions answer with a type or not at all. -/
def Functions.Typed (functions : Functions) : Prop :=
  ∀ name ts t, (∀ s ∈ ts, s.isValid = true) → functions name ts = some t → t.isValid = true

theorem DataType.common?_isValid {s t c : DataType} (common : s.common? t = some c) :
    c.isValid = true :=
  isValid_iff.2 (widens_of_common? common).1.valid.2

theorem Literal.ty_isValid (value : Literal) : value.ty.isValid = true := by
  cases value with
  | int v =>
    show (integerType v.toInt).isValid = true
    unfold integerType
    split_ifs <;> rfl
  | _ => rfl

theorem Arithmetic.result?_isValid {op : Arithmetic} {l r t : DataType}
    (typed : op.result? l r = some t) : t.isValid = true := by
  obtain ⟨-, -, result⟩ := result?_eq_some_iff.1 typed
  cases op with
  | add | subtract | multiply => exact DataType.isValid_iff.2 result.left.valid.2
  | divide =>
    cases result
    rfl
  | modulo => exact DataType.isValid_iff.2 result.2.2.left.valid.2

theorem Aggregate.result?_isValid {op : Aggregate} {argument : Option DataType} {t : DataType}
    (typed : op.result? argument = some t) : t.isValid = true := by
  cases op with
  | count =>
    cases typed
    rfl
  | sum | min | max | avg =>
    cases argument with
    | none => cases typed
    | some argument =>
      revert argument t
      decide

namespace Builtin

/-- A common type is one of the types it is common to, or wider than they are. -/
theorem leastCommon?_isValid {first t : DataType} {rest : List DataType}
    (valid : first.isValid = true) (common : leastCommon? first rest = some t) :
    t.isValid = true := by
  induction rest generalizing first with
  | nil =>
    cases common
    exact valid
  | cons s ss ih =>
    obtain ⟨c, wider, others⟩ := Option.bind_eq_some_iff.1 common
    exact ih (DataType.common?_isValid wider) others

theorem signature?_isValid {f : Builtin} {n : Nat} {families : List (DataType → Bool)}
    {t : DataType} (signature : f.signature? n = some (families, t)) : t.isValid = true := by
  unfold signature? at signature
  split at signature <;> cases signature <;> rfl

theorem result?_isValid {f : Builtin} {ts : List DataType} {t : DataType}
    (valid : ∀ s ∈ ts, s.isValid = true) (typed : f.result? ts = some t) : t.isValid = true := by
  cases f with
  | abs =>
    match ts with
    | [] | _ :: _ :: _ => cases typed
    | [s] =>
      have single : ∀ s t : DataType, abs.result? [s] = some t → t.isValid = true := by decide
      exact single s t typed
  | coalesce =>
    cases ts with
    | nil => cases typed
    | cons s ss => exact leastCommon?_isValid (valid s (by simp)) typed
  | _ =>
    obtain ⟨families, -, signature⟩ := (result?_eq_some_iff (by decide)).1 typed
    exact signature?_isValid signature

theorem functions_typed : functions.Typed := by
  intro name ts t valid typed
  obtain ⟨f, -, result⟩ := Option.bind_eq_some_iff.1 typed
  exact result?_isValid valid result

end Builtin

namespace Analyzer
variable {a : Analyzer}

theorem isValid_of_rule {kind : Kind} {children : List Expr} {t : DataType}
    (typed : a.rule kind children = .ok t) :
    t.isValid = true ∨
      ∃ name, kind = .call name ∧ a.functions name (children.map Expr.ty) = some t := by
  cases kind with
  | slot ref =>
    cases (slotType_ok_iff a).1 typed with
    | slot _ valid => exact Or.inl (DataType.isValid_iff.2 valid)
  | literal value =>
    cases typed
    exact Or.inl value.ty_isValid
  | arithmetic op => exact Or.inl (Arithmetic.result?_isValid (orFail_ok_iff.1 typed))
  | comparison op =>
    simp only [rule] at typed
    split at typed
    next result =>
      obtain ⟨-, rfl⟩ := Comparison.result?_eq_some_iff.1 result
      cases typed
      exact Or.inl rfl
    next => cases typed
  | connective op =>
    obtain ⟨-, rfl⟩ := connectiveRule_ok_iff.1 typed
    exact Or.inl rfl
  | nullTest negated =>
    cases typed
    exact Or.inl rfl
  | pattern op =>
    obtain ⟨-, -, rfl⟩ := Pattern.result?_eq_some_iff.1 (orFail_ok_iff.1 typed)
    exact Or.inl rfl
  | membership negated | range negated =>
    simp only [rule] at typed
    split at typed
    next => cases typed
    next =>
      cases typed
      exact Or.inl rfl
  | cast target =>
    simp only [rule] at typed
    split at typed
    next castable =>
      cases typed
      exact Or.inl (DataType.isValid_iff.2 (castableTo_iff.1 castable).2.1)
    next => cases typed
  | call name => exact Or.inr ⟨name, rfl, orFail_ok_iff.1 typed⟩
  | aggregate op distinct =>
    exact Or.inl (Aggregate.result?_isValid (aggregateRule_ok_iff.1 typed).2)

theorem isValid_of_aggregateRule {kind : Kind} {children : List Expr} {t : DataType}
    (aggregate : kind.shape = .aggregate) (typed : a.rule kind children = .ok t) :
    t.isValid = true := by
  rcases isValid_of_rule typed with valid | ⟨name, rfl, -⟩
  · exact valid
  · cases aggregate

/-- Where the functions answer with types, a settled tree has a type at every node. -/
theorem analyzed_of_settled {e : Expr} (answers : a.functions.Typed) (settled : a.Settled e) :
    ∀ n ∈ e.nodes, n.isAnalyzed = true := by
  induction e using Expr.children_induction with
  | node kind children ty ih =>
    obtain ⟨rule, below⟩ := settled_node.1 settled
    have each : ∀ c ∈ children, ∀ n ∈ c.nodes, n.isAnalyzed = true :=
      fun c member => ih c member (below c member)
    refine Expr.forall_nodes_node.2 ⟨?_, each⟩
    rcases isValid_of_rule rule with valid | ⟨name, -, answered⟩
    · exact valid
    · refine answers name _ ty ?_ answered
      intro s argument
      obtain ⟨c, member, rfl⟩ := List.mem_map.1 argument
      exact each c member c (Expr.self_mem_nodes c)

/-- A settled node without a type is a call that was answered with `invalid`. -/
theorem unanalyzed_iff_of_settled {e n : Expr} (settled : a.Settled e) (inside : n ∈ e.nodes) :
    n.isAnalyzed = false ↔
      ∃ name, n.kind = .call name ∧ a.functions name (n.children.map Expr.ty) = some .invalid := by
  have rule := settled n inside
  constructor
  · intro unanalyzed
    have untyped : n.ty = .invalid := by simpa [Expr.isAnalyzed, DataType.isValid] using unanalyzed
    rw [untyped] at rule
    rcases isValid_of_rule rule with valid | answered
    · cases valid
    · exact answered
  · rintro ⟨name, call, answered⟩
    rw [call] at rule
    have same : a.functions name (n.children.map Expr.ty) = some n.ty := orFail_ok_iff.1 rule
    rw [answered] at same
    rw [Expr.isAnalyzed, ← Option.some.inj same]
    rfl

/-- After a successful analysis the nodes without a type are the calls that the functions answered
with `invalid`; there are none if the functions answer with types. -/
theorem unanalyzed_iff_answered_invalid (a : Analyzer) (e : Expr)
    (success : (a.analyze e).failure = none) :
    (∀ n ∈ (a.analyze e).result.nodes, n.isAnalyzed = false ↔
      ∃ name, n.kind = .call name ∧ a.functions name (n.children.map Expr.ty) = some .invalid) ∧
    (a.functions.Typed → ∀ n ∈ (a.analyze e).result.nodes, n.isAnalyzed = true) := by
  obtain ⟨-, settled, -⟩ := analyze_ok_iff.1 ⟨success, rfl⟩
  exact ⟨fun n inside => unanalyzed_iff_of_settled settled inside,
    fun answers => analyzed_of_settled answers settled⟩

/-- The functions of every query leave no node of a nested call without a type. -/
theorem coalesced_absolute_analyzed :
    let a : Analyzer := { scope := { number := 1 } }
    let e : Expr := .isNull (.call "coalesce" [.call "abs" [.literal .null], .literal (.int 300)])
    (a.analyze e).failure = none ∧ a.functions.Typed ∧
      ∀ n ∈ (a.analyze e).result.nodes, n.isAnalyzed = true := by
  intro a e
  have success : (a.analyze e).failure = none := by decide +kernel
  exact ⟨success, Builtin.functions_typed,
    (unanalyzed_iff_answered_invalid a e success).2 Builtin.functions_typed⟩

/-- IS NULL does not look at the type of its operand: analysis accepts it over a call that was
answered with `invalid`. -/
theorem null_test_over_unanalyzed_call :
    let a : Analyzer := { scope := { number := 1 }, functions := fun _ _ => some .invalid }
    let e : Expr := .isNull (.call "f" [])
    (a.analyze e).failure = none ∧ (a.analyze e).result.isAnalyzed = true ∧
      ¬ ∀ n ∈ (a.analyze e).result.nodes, n.isAnalyzed = true := by
  decide +kernel

end Analyzer
end ScalarSql

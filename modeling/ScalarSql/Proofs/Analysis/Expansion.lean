import ScalarSql.Proofs.Analysis.Success
import ScalarSql.Proofs.Typing.Rules

/-!
IN and BETWEEN beside their expansions. `x IN (e, ...)` says of its operands what the equalities of
`x` with each `e`, joined by OR, say one by one, and `x BETWEEN low AND high` what two comparisons
joined by AND say. Analysis accepts both forms or neither, and gives the operands the same types in
both (`expansions_accepted_alike`), although one form checks all operands at one node and the other
at a node for each.
-/
namespace ScalarSql

namespace Expr

/-- The parts in their order, joined by ORs in any bracketing. Each OR has the given type. -/
inductive Disjoined (ty : DataType) : List Expr → Expr → Prop
  | part (e : Expr) : Disjoined ty [e] e
  | or {ps qs : List Expr} {left right : Expr} : Disjoined ty ps left → Disjoined ty qs right →
      Disjoined ty (ps ++ qs) (.node (.connective .or) [left, right] ty)

theorem disjoined_foldl {ps : List Expr} {first : Expr} (joined : Disjoined .invalid ps first)
    (qs : List Expr) : Disjoined .invalid (ps ++ qs) (qs.foldl Expr.or first) := by
  induction qs generalizing ps first with
  | nil =>
    rw [List.append_nil]
    exact joined
  | cons q qs ih =>
    rw [List.append_cons, List.foldl_cons]
    exact ih (.or joined (.part q))

end Expr

namespace Analyzer

variable {a : Analyzer}

/-- No limit of the analysis is exceeded anywhere in the tree. -/
def WithinLimits (a : Analyzer) (e : Expr) : Prop :=
  e.DepthAtMost a.limits.maxDepth ∧ e.WidthAtMost a.limits.maxChildren

theorem WithinLimits.child {kind : Kind} {children : List Expr} {ty : DataType}
    (within : a.WithinLimits (.node kind children ty)) {c : Expr} (member : c ∈ children) :
    a.WithinLimits c :=
  ⟨((Expr.depthAtMost_node.1 within.1).2 c member).mono (Nat.sub_le _ _),
    (Expr.widthAtMost_node.1 within.2).2 c member⟩

/-- Where no limit is exceeded, a predicate is accepted if its operands are and meet the condition
of its rule. It then is a BOOLEAN over the operands as analysis leaves them. -/
theorem analyze_predicate {kind : Kind} {children : List Expr} {ty : DataType} {condition : Prop}
    (within : a.WithinLimits (.node kind children ty))
    (rule : ∀ t, a.rule kind (children.map fun c => (a.analyze c).result) = .ok t ↔
      condition ∧ .boolean = t) :
    ((a.analyze (.node kind children ty)).failure = none ↔
      (∀ c ∈ children, (a.analyze c).failure = none) ∧ condition) ∧
    ((a.analyze (.node kind children ty)).failure = none →
      (a.analyze (.node kind children ty)).result =
        .node kind (children.map fun c => (a.analyze c).result) .boolean) := by
  have opened : (a.analyze (.node kind children ty)).failure = none →
      ((∀ c ∈ children, (a.analyze c).failure = none) ∧ condition) ∧
        (a.analyze (.node kind children ty)).result =
          .node kind (children.map fun c => (a.analyze c).result) .boolean := by
    intro success
    obtain ⟨-, each, resolved, typed, left⟩ := analyze_node_ok_iff.1 ⟨success, rfl⟩
    obtain ⟨holds, rfl⟩ := (rule resolved).1 typed
    exact ⟨⟨each, holds⟩, left⟩
  refine ⟨⟨fun success => (opened success).1, ?_⟩, fun success => (opened success).2⟩
  rintro ⟨each, holds⟩
  have narrow := (Expr.widthAtMost_node.1 within.2).1
  exact (analyze_node_ok_iff.2
    ⟨⟨within.1, narrow⟩, each, .boolean, (rule .boolean).2 ⟨holds, rfl⟩, rfl⟩).1

theorem analyze_comparison {op : Comparison} {left right : Expr} {ty : DataType}
    (within : a.WithinLimits (.node (.comparison op) [left, right] ty)) :
    ((a.analyze (.node (.comparison op) [left, right] ty)).failure = none ↔
      (a.analyze left).failure = none ∧ (a.analyze right).failure = none ∧
        DataType.Compatible (a.analyze left).result.ty (a.analyze right).result.ty) ∧
    ((a.analyze (.node (.comparison op) [left, right] ty)).failure = none →
      (a.analyze (.node (.comparison op) [left, right] ty)).result =
        .node (.comparison op) [(a.analyze left).result, (a.analyze right).result] .boolean) := by
  have predicate := analyze_predicate within fun t =>
    comparisonRule_ok_iff.trans Comparison.result?_eq_some_iff
  simpa [and_assoc] using predicate

/-- A connective joins two predicates, BOOLEAN where they are accepted, if both are accepted. -/
theorem analyze_connective {op : Connective} {left right : Expr} {ty : DataType}
    (within : a.WithinLimits (.node (.connective op) [left, right] ty))
    (booleanLeft : (a.analyze left).failure = none → (a.analyze left).result.ty = .boolean)
    (booleanRight : (a.analyze right).failure = none → (a.analyze right).result.ty = .boolean) :
    ((a.analyze (.node (.connective op) [left, right] ty)).failure = none ↔
      (a.analyze left).failure = none ∧ (a.analyze right).failure = none) ∧
    ((a.analyze (.node (.connective op) [left, right] ty)).failure = none →
      (a.analyze (.node (.connective op) [left, right] ty)).result =
        .node (.connective op) [(a.analyze left).result, (a.analyze right).result] .boolean) := by
  obtain ⟨accepted, result⟩ := analyze_predicate within fun t => connectiveRule_ok_iff
  refine ⟨accepted.trans ?_, by simpa using result⟩
  constructor
  · rintro ⟨each, -⟩
    exact ⟨each left (by simp), each right (by simp)⟩
  · rintro ⟨first, second⟩
    refine ⟨by simp [first, second], ?_⟩
    simp [booleanLeft first, booleanRight second, Connective.accepts, DataType.orNull]

/-- IN and BETWEEN compare their first operand with each of the others. -/
theorem analyze_compared {kind : Kind} {x : Expr} {es : List Expr} {ty : DataType}
    (compares : kind.shape = .membership ∨ kind.shape = .range)
    (within : a.WithinLimits (.node kind (x :: es) ty)) :
    ((a.analyze (.node kind (x :: es) ty)).failure = none ↔
      (a.analyze x).failure = none ∧ ∀ e ∈ es, (a.analyze e).failure = none ∧
        DataType.Compatible (a.analyze x).result.ty (a.analyze e).result.ty) ∧
    ((a.analyze (.node kind (x :: es) ty)).failure = none →
      (a.analyze (.node kind (x :: es) ty)).result =
        .node kind ((a.analyze x).result :: es.map fun e => (a.analyze e).result) .boolean) := by
  have predicate := analyze_predicate within fun t => by
    rw [List.map_cons, comparedRule_ok_iff compares, all_compatible_iff]
  simpa [and_assoc, forall_and] using predicate

theorem WithinLimits.parts {ty : DataType} {ps : List Expr} {chain : Expr}
    (joined : Expr.Disjoined ty ps chain) (within : a.WithinLimits chain) :
    ∀ p ∈ ps, a.WithinLimits p := by
  induction joined with
  | part e => simpa using within
  | or _ _ left right =>
    intro p member
    rcases List.mem_append.1 member with first | second
    · exact left (within.child (by simp)) p first
    · exact right (within.child (by simp)) p second

/-- ORs over parts that are BOOLEAN where they are accepted are accepted if all parts are, and join
what has become of them. -/
theorem analyze_disjoined {ty : DataType} {ps : List Expr} {chain : Expr}
    (joined : Expr.Disjoined ty ps chain) (within : a.WithinLimits chain)
    (boolean : ∀ p ∈ ps, (a.analyze p).failure = none → (a.analyze p).result.ty = .boolean) :
    ((a.analyze chain).failure = none ↔ ∀ p ∈ ps, (a.analyze p).failure = none) ∧
    ((a.analyze chain).failure = none → (a.analyze chain).result.ty = .boolean ∧
      Expr.Disjoined .boolean (ps.map fun p => (a.analyze p).result) (a.analyze chain).result) := by
  induction joined with
  | part e =>
    refine ⟨by simp, fun success => ?_⟩
    exact ⟨boolean e (by simp) success, .part _⟩
  | @or ps qs left right _ _ ihLeft ihRight =>
    obtain ⟨booleanLeft, booleanRight⟩ := List.forall_mem_append.1 boolean
    obtain ⟨leftIff, leftResult⟩ := ihLeft (within.child (by simp)) booleanLeft
    obtain ⟨rightIff, rightResult⟩ := ihRight (within.child (by simp)) booleanRight
    obtain ⟨accepted, result⟩ := analyze_connective within
      (fun success => (leftResult success).1) fun success => (rightResult success).1
    refine ⟨?_, fun success => ?_⟩
    · rw [accepted, List.forall_mem_append, leftIff, rightIff]
    · obtain ⟨first, second⟩ := accepted.1 success
      rw [result success, List.map_append]
      exact ⟨rfl, .or (leftResult first).2 (rightResult second).2⟩

/-- Equalities of one expression with each of some others, joined by OR. -/
theorem analyze_equalities {x chain : Expr} {es : List Expr}
    (joined : Expr.Disjoined .invalid (es.map (.comparison .eq x)) chain)
    (within : a.WithinLimits chain) :
    ((a.analyze chain).failure = none ↔
      ∀ e ∈ es, (a.analyze x).failure = none ∧ (a.analyze e).failure = none ∧
        DataType.Compatible (a.analyze x).result.ty (a.analyze e).result.ty) ∧
    ((a.analyze chain).failure = none → (a.analyze chain).result.ty = .boolean ∧
      Expr.Disjoined .boolean
        (es.map fun e => .node (.comparison .eq) [(a.analyze x).result, (a.analyze e).result]
          .boolean)
        (a.analyze chain).result) := by
  have each := List.forall_mem_map.1 (within.parts joined)
  have boolean : ∀ p ∈ es.map (.comparison .eq x), (a.analyze p).failure = none →
      (a.analyze p).result.ty = .boolean := by
    refine List.forall_mem_map.2 fun e member success => ?_
    exact congrArg Expr.ty ((analyze_comparison (each e member)).2 success)
  obtain ⟨accepted, result⟩ := analyze_disjoined joined within boolean
  rw [List.forall_mem_map] at accepted
  constructor
  · exact accepted.trans (forall₂_congr fun e member => (analyze_comparison (each e member)).1)
  · intro success
    have parts : (es.map (.comparison .eq x)).map (fun p => (a.analyze p).result) = es.map fun e =>
        .node (.comparison .eq) [(a.analyze x).result, (a.analyze e).result] .boolean := by
      rw [List.map_map]
      exact List.map_congr_left fun e member =>
        (analyze_comparison (each e member)).2 (accepted.1 success e member)
    rw [← parts]
    exact result success

/-- Two comparisons of one expression, joined by AND. -/
theorem analyze_bounds {x low high bounds : Expr} {first second : Comparison}
    {ty ty₁ ty₂ : DataType}
    (joined : bounds = .node (.connective .and)
      [.node (.comparison first) [x, low] ty₁, .node (.comparison second) [x, high] ty₂] ty)
    (within : a.WithinLimits bounds) :
    ((a.analyze bounds).failure = none ↔
      ((a.analyze x).failure = none ∧ (a.analyze low).failure = none ∧
        DataType.Compatible (a.analyze x).result.ty (a.analyze low).result.ty) ∧
      (a.analyze x).failure = none ∧ (a.analyze high).failure = none ∧
        DataType.Compatible (a.analyze x).result.ty (a.analyze high).result.ty) ∧
    ((a.analyze bounds).failure = none →
      (a.analyze bounds).result = .node (.connective .and)
        [.node (.comparison first) [(a.analyze x).result, (a.analyze low).result] .boolean,
          .node (.comparison second) [(a.analyze x).result, (a.analyze high).result] .boolean]
        .boolean) := by
  subst joined
  obtain ⟨acceptedLow, resultLow⟩ := analyze_comparison (within.child List.mem_cons_self)
  obtain ⟨acceptedHigh, resultHigh⟩ :=
    analyze_comparison (within.child (List.mem_cons_of_mem _ List.mem_cons_self))
  obtain ⟨accepted, result⟩ := analyze_connective within
    (fun success => by rw [resultLow success]; rfl) (fun success => by rw [resultHigh success]; rfl)
  refine ⟨accepted.trans (and_congr acceptedLow acceptedHigh), fun success => ?_⟩
  obtain ⟨low, high⟩ := accepted.1 success
  rw [result success, resultLow low, resultHigh high]

/-- Where no limit is exceeded, IN over a list that is not empty is accepted exactly if the
equalities with its members, joined by OR, are, and BETWEEN exactly if the comparisons with both
bounds, joined by AND, are, negated or not. Accepted forms are BOOLEAN, and hold each operand with
the types it has in the other form. -/
theorem expansions_accepted_alike (a : Analyzer) (x : Expr) (negated : Bool) :
    (∀ es : List Expr, es ≠ [] → ∃ e, Expr.membership x es negated = .ok e ∧
      ∀ chain, Expr.Disjoined .invalid (es.map (.comparison .eq x)) chain →
        a.WithinLimits e → a.WithinLimits chain →
        ((a.analyze e).failure = none ↔ (a.analyze chain).failure = none) ∧
        ((a.analyze e).failure = none →
          (a.analyze e).result = .node (.membership negated)
            ((a.analyze x).result :: es.map fun m => (a.analyze m).result) .boolean ∧
          (a.analyze chain).result.ty = .boolean ∧
          Expr.Disjoined .boolean
            (es.map fun m => .node (.comparison .eq) [(a.analyze x).result, (a.analyze m).result]
              .boolean)
            (a.analyze chain).result)) ∧
    ∀ low high : Expr,
      let range : Expr := .between x low high negated
      let bounds : Expr := .and (.comparison .ge x low) (.comparison .le x high)
      a.WithinLimits range → a.WithinLimits bounds →
        ((a.analyze range).failure = none ↔ (a.analyze bounds).failure = none) ∧
        ((a.analyze range).failure = none →
          (a.analyze range).result = .node (.range negated)
            [(a.analyze x).result, (a.analyze low).result, (a.analyze high).result] .boolean ∧
          (a.analyze bounds).result = .node (.connective .and)
            [.node (.comparison .ge) [(a.analyze x).result, (a.analyze low).result] .boolean,
              .node (.comparison .le) [(a.analyze x).result, (a.analyze high).result] .boolean]
            .boolean) := by
  constructor
  · intro es listed
    refine ⟨_, Expr.membership_eq_ok_iff.2 ⟨listed, rfl⟩, ?_⟩
    intro chain joined within withinChain
    obtain ⟨accepted, result⟩ := analyze_compared (Or.inl rfl) within
    obtain ⟨acceptedChain, resultChain⟩ := analyze_equalities joined withinChain
    obtain ⟨first, member⟩ := List.exists_mem_of_ne_nil es listed
    have alike := accepted.trans (Iff.trans ?_ acceptedChain.symm)
    · exact ⟨alike, fun success => ⟨result success, resultChain (alike.1 success)⟩⟩
    · constructor
      · rintro ⟨compared, each⟩ m inside
        exact ⟨compared, each m inside⟩
      · intro each
        exact ⟨(each first member).1, fun m inside => (each m inside).2⟩
  · intro low high range bounds within withinBounds
    obtain ⟨accepted, result⟩ := analyze_compared (Or.inr rfl) within
    obtain ⟨acceptedBounds, resultBounds⟩ := analyze_bounds rfl withinBounds
    have alike := accepted.trans (Iff.trans ?_ acceptedBounds.symm)
    · exact ⟨alike, fun success => ⟨result success, resultBounds (alike.1 success)⟩⟩
    · simp only [List.forall_mem_cons, List.not_mem_nil, false_implies, implies_true, and_true]
      tauto

/-- NULL is accepted in both forms beside a number and a text, which cannot be compared with each
other. A number is refused in both, for the text behind NULL and itself. -/
theorem null_among_incompatible_operands :
    let price : Slot := { id := ⟨1, 0⟩, parent := ⟨1, 0⟩, ty := .int }
    let a : Analyzer := { scope := { number := 1, slots := [price] } }
    let x : Expr := .slot ⟨price.parent, price.id, some "price"⟩
    let null : Expr := .literal .null
    let text : Expr := .literal (.string "a")
    let among (y : Expr) : Expr := .untyped (.membership true) [y, null, x, text]
    let equals (y e : Expr) : Expr := .comparison .eq y e
    let chain (y : Expr) : Expr := .or (.or (equals y null) (equals y x)) (equals y text)
    let bounds (y low high : Expr) : Expr := .and (.comparison .ge y low) (.comparison .le y high)
    (a.analyze (among null)).failure = none ∧ (a.analyze (chain null)).failure = none ∧
      (a.analyze (chain null)).result.ty = .boolean ∧
      (a.analyze (among x)).failure ≠ none ∧ (a.analyze (chain x)).failure ≠ none ∧
      (a.analyze (.between null x text false)).failure = none ∧
      (a.analyze (bounds null x text)).failure = none := by
  intro price a x null text among equals chain bounds
  have joined (y : Expr) :
      Expr.Disjoined .invalid ([null, x, text].map (.comparison .eq y)) (chain y) :=
    Expr.disjoined_foldl (.part (equals y null)) [equals y x, equals y text]
  have within (e : Expr) (shallow : e ∈ [among null, among x, chain null, chain x,
      .between null x text false, bounds null x text]) : a.WithinLimits e := by
    revert e
    simp [WithinLimits, Expr.depthAtMost_node, Expr.widthAtMost_node, a, among, chain, bounds,
      equals, null, x, text, Expr.or, Expr.and, Expr.between, Expr.comparison, Expr.literal,
      Expr.slot, Expr.untyped]
  have listed : [null, x, text] ≠ [] := by simp
  obtain ⟨_, made, ofNull⟩ := (expansions_accepted_alike a null true).1 [null, x, text] listed
  cases made
  obtain ⟨nullAlike, nullTyped⟩ :=
    ofNull (chain null) (joined null) (within (among null) (by simp)) (within _ (by simp))
  obtain ⟨_, made, ofNumber⟩ := (expansions_accepted_alike a x true).1 [null, x, text] listed
  cases made
  obtain ⟨numberAlike, -⟩ :=
    ofNumber (chain x) (joined x) (within (among x) (by simp)) (within _ (by simp))
  obtain ⟨rangeAlike, -⟩ := (expansions_accepted_alike a null false).2 x text
    (within _ (by simp)) (within _ (by simp [bounds]))
  have accepted : (a.analyze (among null)).failure = none := by decide
  have refused : (a.analyze (among x)).failure ≠ none := by decide
  have range : (a.analyze (.between null x text false)).failure = none := by decide
  exact ⟨accepted, nullAlike.1 accepted, (nullTyped accepted).2.1, refused,
    fun success => refused (numberAlike.2 success), range, rangeAlike.1 range⟩

end Analyzer
end ScalarSql

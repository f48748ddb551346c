import ScalarSql.Analysis.Walk
import ScalarSql.Proofs.Tree.Built
import ScalarSql.Proofs.Typing.Widening

/-!
The typing rules of expressions, one for each form of node, over the types of its children. The rule
that analysis computes for a node with a fitting number of children gives a type exactly if these
rules do and no aggregate stands inside another (`rule_ok_iff`).
-/
namespace ScalarSql

open DataType

/-- The type of a node of a kind whose children have the given types. A function call has whatever
type the functions name for it. -/
inductive Typing (scope : Scope) (functions : Functions) : Kind → List DataType → DataType → Prop
  /-- The slot must be in the scope and have a type. -/
  | slot {ref : SlotRef} {s : Slot} :
      scope.slot? ref.slot = some s → s.ty ≠ .invalid → Typing scope functions (.slot ref) [] s.ty
  | null : Typing scope functions (.literal .null) [] .null
  | boolean (b : Bool) : Typing scope functions (.literal (.boolean b)) [] .boolean
  | integer {v : Int64} {t : DataType} :
      Narrowest v.toInt t → Typing scope functions (.literal (.int v)) [] t
  | double (v : Double) : Typing scope functions (.literal (.double v)) [] .double
  | string (s : String) : Typing scope functions (.literal (.string s)) [] .string
  | arithmetic {op : Arithmetic} {l r t : DataType} :
      op = .add ∨ op = .subtract ∨ op = .multiply → l.MayBe isNumeric → r.MayBe isNumeric →
      LeastCommon l r t → Typing scope functions (.arithmetic op) [l, r] t
  | quotient {l r : DataType} : l.MayBe isNumeric → r.MayBe isNumeric →
      Typing scope functions (.arithmetic .divide) [l, r] .double
  | remainder {l r t : DataType} : l.MayBe isInteger → r.MayBe isInteger → LeastCommon l r t →
      Typing scope functions (.arithmetic .modulo) [l, r] t
  | comparison {op : Comparison} {l r : DataType} : Compatible l r →
      Typing scope functions (.comparison op) [l, r] .boolean
  | connective {op : Connective} {ts : List DataType} : ts.length = op.arity →
      (∀ t ∈ ts, t = .null ∨ t = .boolean) → Typing scope functions (.connective op) ts .boolean
  | nullTest (negated : Bool) (t : DataType) :
      Typing scope functions (.nullTest negated) [t] .boolean
  | pattern {op : Pattern} {l r : DataType} : l = .null ∨ l = .string → r = .null ∨ r = .string →
      Typing scope functions (.pattern op) [l, r] .boolean
  | membership {negated : Bool} {t : DataType} {ts : List DataType} : ts ≠ [] →
      (∀ m ∈ ts, Compatible t m) → Typing scope functions (.membership negated) (t :: ts) .boolean
  | range {negated : Bool} {t low high : DataType} : Compatible t low → Compatible t high →
      Typing scope functions (.range negated) [t, low, high] .boolean
  /-- All types cast among each other except dates and booleans. -/
  | cast {source target : DataType} : source ≠ .invalid → target ≠ .invalid → target ≠ .null →
      ¬ (source.isTemporal = true ∧ target = .boolean) →
      ¬ (source = .boolean ∧ target.isTemporal = true) →
      Typing scope functions (.cast target) [source] target
  | call {name : String} {ts : List DataType} {t : DataType} : functions name ts = some t →
      Typing scope functions (.call name) ts t
  | countAll : Typing scope functions (.aggregate .count false) [] .bigInt
  | count (distinct : Bool) (t : DataType) :
      Typing scope functions (.aggregate .count distinct) [t] .bigInt
  | sumOfIntegers {distinct : Bool} {t : DataType} : t.MayBe isInteger →
      Typing scope functions (.aggregate .sum distinct) [t] .bigInt
  | sumOfFloating {distinct : Bool} {t : DataType} : t.isFloating = true →
      Typing scope functions (.aggregate .sum distinct) [t] .double
  | average {distinct : Bool} {t : DataType} : t.MayBe isNumeric →
      Typing scope functions (.aggregate .avg distinct) [t] .double
  | extreme {op : Aggregate} {distinct : Bool} {t : DataType} : op = .min ∨ op = .max →
      t ≠ .invalid → Typing scope functions (.aggregate op distinct) [t] t

theorem DataType.isValid_iff {t : DataType} : t.isValid = true ↔ t ≠ .invalid := by
  simp [isValid]

theorem orFail_ok_iff {α : Type} {value : Option α} {e : AnalysisError} {x : α} :
    orFail value e = .ok x ↔ value = some x := by
  cases value <;> simp [orFail]

section Operators
variable {l r t : DataType}

theorem Arithmetic.result?_eq_some_iff {op : Arithmetic} :
    op.result? l r = some t ↔ l.MayBe isNumeric ∧ r.MayBe isNumeric ∧
      match op with
      | .divide => .double = t
      | .modulo => l.MayBe isInteger ∧ r.MayBe isInteger ∧ LeastCommon l r t
      | .add | .subtract | .multiply => LeastCommon l r t := by
  unfold result?
  cases op <;> simp [orNull_iff, common?_eq_some_iff, and_assoc]

theorem Comparison.result?_eq_some_iff {op : Comparison} :
    op.result? l r = some t ↔ Compatible l r ∧ .boolean = t := by
  rw [← common?_isSome_iff, Option.isSome_iff_exists]
  simp [result?]

theorem Pattern.result?_eq_some_iff {op : Pattern} :
    op.result? l r = some t ↔
      (l = .null ∨ l = .string) ∧ (r = .null ∨ r = .string) ∧ .boolean = t := by
  simp [result?, orNull_iff, MayBe, and_assoc]

theorem castableTo_iff {source target : DataType} :
    source.castableTo target = true ↔ source ≠ .invalid ∧ target ≠ .invalid ∧ target ≠ .null ∧
      ¬ (source.isTemporal = true ∧ target = .boolean) ∧
      ¬ (source = .boolean ∧ target.isTemporal = true) := by
  revert source target
  decide

end Operators

section Nodes
variable (a : Analyzer) {l r t : DataType}

theorem slotType_ok_iff {ref : SlotRef} :
    a.slotType ref.slot = .ok t ↔ Typing a.scope a.functions (.slot ref) [] t := by
  unfold Analyzer.slotType
  constructor
  · intro found
    cases look : a.scope.slot? ref.slot with
    | none => simp [look] at found
    | some s =>
      simp only [look] at found
      split at found
      next valid =>
        cases found
        exact .slot look (isValid_iff.1 valid)
      next => cases found
  · intro typing
    cases typing with
    | slot look valid => simp [look, isValid_iff.2 valid]

theorem literalType_iff {value : Literal} :
    value.ty = t ↔ Typing a.scope a.functions (.literal value) [] t := by
  constructor
  · rintro rfl
    cases value with
    | null => exact .null
    | boolean b => exact .boolean b
    | int v => exact .integer (Literal.integerType_eq_iff.1 rfl)
    | double v => exact .double v
    | string s => exact .string s
  · intro typing
    cases typing with
    | integer narrowest => exact Literal.integerType_eq_iff.2 narrowest
    | _ => rfl

theorem arithmeticType_iff {op : Arithmetic} :
    op.result? l r = some t ↔ Typing a.scope a.functions (.arithmetic op) [l, r] t := by
  rw [Arithmetic.result?_eq_some_iff]
  constructor
  · rintro ⟨left, right, result⟩
    cases op with
    | add | subtract | multiply => exact .arithmetic (by simp) left right result
    | divide =>
      cases result
      exact .quotient left right
    | modulo => exact .remainder result.1 result.2.1 result.2.2
  · intro typing
    cases typing with
    | arithmetic operator left right result =>
      rcases operator with rfl | rfl | rfl <;> exact ⟨left, right, result⟩
    | quotient left right => exact ⟨left, right, rfl⟩
    | remainder left right result =>
      exact ⟨left.imp_right (by simp_all [isNumeric]), right.imp_right (by simp_all [isNumeric]),
        left, right, result⟩

theorem comparisonType_iff {op : Comparison} :
    op.result? l r = some t ↔ Typing a.scope a.functions (.comparison op) [l, r] t := by
  rw [Comparison.result?_eq_some_iff]
  constructor
  · rintro ⟨compatible, rfl⟩
    exact .comparison compatible
  · intro typing
    cases typing with
    | comparison compatible => exact ⟨compatible, rfl⟩

theorem patternType_iff {op : Pattern} :
    op.result? l r = some t ↔ Typing a.scope a.functions (.pattern op) [l, r] t := by
  rw [Pattern.result?_eq_some_iff]
  constructor
  · rintro ⟨left, right, rfl⟩
    exact .pattern left right
  · intro typing
    cases typing with
    | pattern left right => exact ⟨left, right, rfl⟩

theorem castType_iff {target : DataType} :
    l.castableTo target = true ∧ target = t ↔
      Typing a.scope a.functions (.cast target) [l] t := by
  rw [castableTo_iff]
  constructor
  · rintro ⟨⟨source, valid, notNull, noBoolean, noDate⟩, rfl⟩
    exact .cast source valid notNull noBoolean noDate
  · intro typing
    cases typing with
    | cast source valid notNull noBoolean noDate =>
      exact ⟨⟨source, valid, notNull, noBoolean, noDate⟩, rfl⟩

theorem callType_iff {name : String} {ts : List DataType} :
    a.functions name ts = some t ↔ Typing a.scope a.functions (.call name) ts t := by
  constructor
  · exact .call
  · intro typing
    cases typing with
    | call named => exact named

theorem aggregateType_iff {op : Aggregate} {distinct : Bool} {ts : List DataType}
    (fits : (Kind.aggregate op distinct).takes ts.length) :
    op.result? ts.head? = some t ↔ Typing a.scope a.functions (.aggregate op distinct) ts t := by
  rcases fits with one | ⟨zero, rfl, rfl⟩
  · obtain ⟨s, rfl⟩ := List.length_eq_one_iff.1 one
    constructor
    · intro result
      cases op with
      | count =>
        cases result
        exact .count distinct s
      | sum =>
        simp only [Aggregate.result?, List.head?_cons] at result
        split at result
        next whole =>
          cases result
          exact .sumOfIntegers (orNull_iff.1 whole)
        next =>
          split at result
          next floating =>
            cases result
            exact .sumOfFloating floating
          next => cases result
      | avg =>
        simp only [Aggregate.result?, List.head?_cons] at result
        split at result
        next numeric =>
          cases result
          exact .average (orNull_iff.1 numeric)
        next => cases result
      | min | max =>
        simp only [Aggregate.result?, List.head?_cons] at result
        split at result
        next valid =>
          cases result
          exact .extreme (by simp) (isValid_iff.1 valid)
        next => cases result
    · intro typing
      cases typing with
      | count => rfl
      | sumOfIntegers whole => simp [Aggregate.result?, orNull_iff.2 whole]
      | sumOfFloating floating =>
        have separate : s.orNull isInteger = false := by
          revert floating
          cases s <;> decide
        simp [Aggregate.result?, separate, floating]
      | average numeric => simp [Aggregate.result?, orNull_iff.2 numeric]
      | extreme operator valid =>
        rcases operator with rfl | rfl <;> simp [Aggregate.result?, isValid_iff.2 valid]
  · rw [List.length_eq_zero_iff.1 zero]
    constructor
    · intro result
      cases result
      exact .countAll
    · intro typing
      cases typing with
      | countAll => rfl

theorem connectiveType_iff {op : Connective} {ts : List DataType} (fits : ts.length = op.arity) :
    ts.find? (!op.accepts ·) = none ∧ .boolean = t ↔
      Typing a.scope a.functions (.connective op) ts t := by
  have accepted : ts.find? (!op.accepts ·) = none ↔ ∀ s ∈ ts, s = .null ∨ s = .boolean := by
    simp [List.find?_eq_none, Connective.accepts, orNull_iff, MayBe]
  rw [accepted]
  constructor
  · rintro ⟨operands, rfl⟩
    exact .connective fits operands
  · intro typing
    cases typing with
    | connective _ operands => exact ⟨operands, rfl⟩

/-- The operands after the first are all compatible with it. -/
theorem all_compatible_iff {ts : List DataType} :
    (ts.find? fun m => (l.common? m).isNone) = none ↔ ∀ m ∈ ts, Compatible l m := by
  simp [List.find?_eq_none, ← common?_isSome_iff, Option.isSome_iff_ne_none]

theorem membershipType_iff (negated : Bool) {ts : List DataType} (fits : 1 ≤ ts.length) :
    (ts.find? fun m => (l.common? m).isNone) = none ∧ .boolean = t ↔
      Typing a.scope a.functions (.membership negated) (l :: ts) t := by
  rw [all_compatible_iff]
  constructor
  · rintro ⟨compatible, rfl⟩
    refine .membership ?_ compatible
    rintro rfl
    simp at fits
  · intro typing
    cases typing with
    | membership _ compatible => exact ⟨compatible, rfl⟩

theorem rangeType_iff {negated : Bool} {low high : DataType} :
    ([low, high].find? fun m => (l.common? m).isNone) = none ∧ .boolean = t ↔
      Typing a.scope a.functions (.range negated) [l, low, high] t := by
  rw [all_compatible_iff]
  constructor
  · rintro ⟨compatible, rfl⟩
    exact .range (compatible low (by simp)) (compatible high (by simp))
  · intro typing
    cases typing with
    | range atLow atHigh => exact ⟨by simp [atLow, atHigh], rfl⟩

theorem nullTestType_iff {negated : Bool} :
    .boolean = t ↔ Typing a.scope a.functions (.nullTest negated) [l] t := by
  constructor
  · rintro rfl
    exact .nullTest negated l
  · intro typing
    cases typing with
    | nullTest => rfl

end Nodes

namespace Analyzer
variable {a : Analyzer} {t : DataType}

theorem comparisonRule_ok_iff {op : Comparison} {l r : Expr} :
    a.rule (.comparison op) [l, r] = .ok t ↔ op.result? l.ty r.ty = some t := by
  simp only [rule, List.map_cons, List.map_nil, List.getD_cons_zero, List.getD_cons_succ]
  split
  next resolved found => simp [found]
  next missing => simp [missing]

theorem connectiveRule_ok_iff {op : Connective} {children : List Expr} :
    a.rule (.connective op) children = .ok t ↔
      (children.map Expr.ty).find? (!op.accepts ·) = none ∧ .boolean = t := by
  simp only [rule]
  split
  next refused found => simp [found]
  next accepted => simp [accepted]

/-- Membership and range compare the first child with each of the others. -/
theorem comparedRule_ok_iff {kind : Kind} {c : Expr} {cs : List Expr}
    (compares : kind.shape = .membership ∨ kind.shape = .range) :
    a.rule kind (c :: cs) = .ok t ↔
      ((cs.map Expr.ty).find? fun m => (c.ty.common? m).isNone) = none ∧ .boolean = t := by
  cases kind with
  | membership negated | range negated =>
    simp only [rule, List.map_cons, List.getD_cons_zero, List.drop_succ_cons, List.drop_zero]
    split
    next refused found => simp [found]
    next accepted => simp [accepted]
  | _ => simp [Kind.shape] at compares

theorem castRule_ok_iff {target : DataType} {c : Expr} :
    a.rule (.cast target) [c] = .ok t ↔ c.ty.castableTo target = true ∧ target = t := by
  simp only [rule, List.map_cons, List.getD_cons_zero]
  split
  next castable => simp [castable]
  next refused => simp [refused]

/-- An aggregate can take any other argument but one that holds an aggregate. -/
theorem aggregateRule_ok_iff {op : Aggregate} {distinct : Bool} {children : List Expr} :
    a.rule (.aggregate op distinct) children = .ok t ↔
      Expr.anyContains .aggregate (children.take 1) = false ∧
        op.result? (children.map Expr.ty).head? = some t := by
  simp only [rule]
  split
  next nested => simp [nested]
  next apart => simp [apart, orFail_ok_iff]

/-- The rule for a node gives a type exactly if the typing rules give it for the types of the
children and the argument of an aggregate holds no other aggregate. -/
theorem rule_ok_iff {kind : Kind} {children : List Expr} (fits : kind.takes children.length) :
    a.rule kind children = .ok t ↔
      Typing a.scope a.functions kind (children.map Expr.ty) t ∧
        (kind.shape = .aggregate → ∀ c ∈ children, c.contains .aggregate = false) := by
  cases kind with
  | slot ref =>
    obtain rfl := List.length_eq_zero_iff.1 fits
    simpa [rule, Kind.shape] using slotType_ok_iff a
  | literal value =>
    obtain rfl := List.length_eq_zero_iff.1 fits
    simpa [rule, Kind.shape] using literalType_iff a
  | arithmetic op =>
    obtain ⟨l, r, rfl⟩ := List.length_eq_two.1 fits
    simpa [rule, Kind.shape, orFail_ok_iff] using arithmeticType_iff a
  | comparison op =>
    obtain ⟨l, r, rfl⟩ := List.length_eq_two.1 fits
    simpa [comparisonRule_ok_iff, Kind.shape] using comparisonType_iff a
  | connective op =>
    have arity : (children.map Expr.ty).length = op.arity := by
      rw [List.length_map]
      exact fits
    rw [connectiveRule_ok_iff, connectiveType_iff a arity]
    simp [Kind.shape]
  | nullTest negated =>
    obtain ⟨c, rfl⟩ := List.length_eq_one_iff.1 fits
    simpa [rule, Kind.shape] using nullTestType_iff a
  | pattern op =>
    obtain ⟨l, r, rfl⟩ := List.length_eq_two.1 fits
    simpa [rule, Kind.shape, orFail_ok_iff] using patternType_iff a
  | membership negated =>
    cases children with
    | nil => simp [Kind.takes] at fits
    | cons c cs =>
      have listed : 1 ≤ (cs.map Expr.ty).length := by simpa [Kind.takes] using fits
      rw [comparedRule_ok_iff (Or.inl rfl), membershipType_iff a negated listed]
      simp [Kind.shape]
  | range negated =>
    obtain ⟨c, low, high, rfl⟩ := List.length_eq_three.1 fits
    rw [comparedRule_ok_iff (Or.inr rfl)]
    simpa [Kind.shape] using rangeType_iff a
  | cast target =>
    obtain ⟨c, rfl⟩ := List.length_eq_one_iff.1 fits
    rw [castRule_ok_iff]
    simpa [Kind.shape] using castType_iff a
  | call name => simpa [rule, Kind.shape, orFail_ok_iff] using callType_iff a
  | aggregate op distinct =>
    have count : (Kind.aggregate op distinct).takes (children.map Expr.ty).length := by
      rw [List.length_map]
      exact fits
    have short : children.take 1 = children := by
      refine List.take_of_length_le ?_
      rcases fits with one | ⟨zero, -⟩ <;> omega
    rw [aggregateRule_ok_iff, aggregateType_iff a count, short, Expr.anyContains_eq_any]
    simp [Kind.shape, and_comm]

end Analyzer
end ScalarSql

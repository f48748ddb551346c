import ScalarSql.Proofs.Analysis.Success
import ScalarSql.Proofs.Tree.Built
import ScalarSql.Proofs.Tree.Rewriting

/-!
The trees that callers can get hold of: by constructors, by setting types, by an analysis that
succeeds or fails, by copying and substituting, and as children of such trees. Every node has as
many children as its kind takes. Text and rules, written once more so that they give nothing where a
child is missing, therefore always give what they give (`obtained_operands_present`).
-/
namespace ScalarSql

namespace Expr

/-- A tree that some sequence of calls gives. -/
inductive Obtained : Expr → Prop
  | made {operands : List Expr} {e : Expr} :
      Made operands e → (∀ o ∈ operands, Obtained o) → Obtained e
  | child {e c : Expr} : Obtained e → c ∈ e.children → Obtained c
  | retyped (ty : DataType) {e : Expr} : Obtained e → Obtained (e.setType ty)
  | analyzed (a : Analyzer) {e : Expr} : Obtained e → Obtained (a.analyze e).result
  | analyzedAll (a : Analyzer) {es : List Expr} {e : Expr} :
      (∀ c ∈ es, Obtained c) → e ∈ (a.analyzeAll es).result → Obtained e
  | copied (m : Option Substitution) {e : Expr} :
      (∀ map ∈ m, ∀ p ∈ map.patterns, Obtained p) →
      (∀ map ∈ m, ∀ r ∈ map.replacements, Obtained r) → Obtained e → Obtained (e.copyWith m)
  | copiedAll (m : Option Substitution) {es : List Expr} {e : Expr} :
      (∀ map ∈ m, ∀ p ∈ map.patterns, Obtained p) →
      (∀ map ∈ m, ∀ r ∈ map.replacements, Obtained r) → (∀ c ∈ es, Obtained c) →
      e ∈ copyAllWith m es → Obtained e
  | substituted (m : Substitution) {e : Expr} :
      (∀ p ∈ m.patterns, Obtained p) → (∀ r ∈ m.replacements, Obtained r) →
      Obtained e → Obtained (e.substitute m)
  | substitutedAll (m : Substitution) {es : List Expr} {e : Expr} :
      (∀ p ∈ m.patterns, Obtained p) → (∀ r ∈ m.replacements, Obtained r) →
      (∀ c ∈ es, Obtained c) → e ∈ substituteAll m es → Obtained e

section EachNode
variable {P : Kind → Nat → Prop} {e : Expr}

/-- Replacements are taken as they are and all else keeps its kind and number of children. -/
theorem EachNode.rewrite {replacement? : Expr → Option Expr}
    (replacements : ∀ n r, replacement? n = some r → r.EachNode P) (each : e.EachNode P) :
    (e.rewrite replacement?).EachNode P := by
  revert each
  refine rewrite_induction (fun _ r found _ => replacements _ r found) ?_ e
  intro kind children ty _ below each
  obtain ⟨own, inner⟩ := eachNode_node.1 each
  refine eachNode_node.2 ⟨by rwa [List.length_map], ?_⟩
  intro c member
  obtain ⟨d, inside, rfl⟩ := List.mem_map.1 member
  exact below d inside (inner d inside)

theorem EachNode.substitute {m : Substitution} (replacements : ∀ r ∈ m.replacements, r.EachNode P)
    (each : e.EachNode P) : (e.substitute m).EachNode P :=
  each.rewrite fun _ r found => replacements r (Substitution.mem_replacements found)

theorem EachNode.copyWith {m : Option Substitution}
    (replacements : ∀ map ∈ m, ∀ r ∈ map.replacements, r.EachNode P) (each : e.EachNode P) :
    (e.copyWith m).EachNode P := by
  cases m with
  | none =>
    rw [copyWith_none]
    exact each
  | some map =>
    rw [copyWith_some]
    exact each.substitute (replacements map rfl)

/-- What all constructors give the nodes that they make, all nodes have. -/
theorem Obtained.eachNode (own : ∀ operands e, Made operands e → P e.kind operands.length)
    (obtained : e.Obtained) : e.EachNode P := by
  induction obtained with
  | made built _ below => exact built.eachNode (own _ _ built) below
  | @child e c _ member each =>
    obtain ⟨kind, children, ty⟩ := e
    exact (eachNode_node.1 each).2 c member
  | retyped ty _ each => exact each.setType ty
  | analyzed a _ each => exact eachNode_of_bare_eq (Analyzer.walk_result_bare a 1 _).symm each
  | @analyzedAll a es e _ member each =>
    have kinds : List.Forall₂ (fun d c => d.bare = c.bare) (a.analyzeAll es).result es :=
      Analyzer.walkAll_result_bare_of_each (fun c _ depth => a.walk_result_bare depth c) 1
    obtain ⟨c, inside, same⟩ := exists_mem_of_forall₂ kinds.flip member
    exact eachNode_of_bare_eq same.symm (each c inside)
  | copied m _ _ _ _ replacements each => exact each.copyWith replacements
  | copiedAll m _ _ _ member _ replacements each =>
    rw [copyAllWith_eq_map] at member
    obtain ⟨c, inside, rfl⟩ := List.mem_map.1 member
    exact (each c inside).copyWith replacements
  | substituted m _ _ _ _ replacements each => exact each.substitute replacements
  | substitutedAll m _ _ _ member _ replacements each =>
    rw [substituteAll, rewriteAll_eq_map] at member
    obtain ⟨c, inside, rfl⟩ := List.mem_map.1 member
    exact (each c inside).substitute replacements

end EachNode

theorem Obtained.fitsArity {e : Expr} (obtained : e.Obtained) : e.FitsArity :=
  obtained.eachNode fun _ _ made => made.takes

end Expr

/-! ### Reading children that must be there -/

/-- The text of a node, if all the children are there that it shows one by one. -/
def Kind.checkedSql? (kind : Kind) (pieces : List Piece) : Option String :=
  let joined (symbol : String) : Option String := do
    let first ← pieces[0]?
    let second ← pieces[1]?
    return first.operand ++ " " ++ symbol ++ " " ++ second.operand
  match kind with
  | .slot ref => some ref.sql
  | .literal value => some value.sql
  | .arithmetic op => joined op.symbol
  | .comparison op => joined op.symbol
  | .connective .not => do
    let operand ← pieces[0]?
    return "NOT " ++ operand.operand
  | .connective op => joined op.symbol
  | .nullTest negated => do
    let operand ← pieces[0]?
    return operand.operand ++ " IS " ++ negatable negated "NULL"
  | .pattern op => joined op.symbol
  | .membership negated => do
    let compared ← pieces[0]?
    return compared.operand ++ " " ++ negatable negated "IN" ++ " (" ++
      commaSeparated (pieces.drop 1) ++ ")"
  | .range negated => do
    let compared ← pieces[0]?
    let low ← pieces[1]?
    let high ← pieces[2]?
    return compared.operand ++ " " ++ negatable negated "BETWEEN" ++ " " ++ low.operand ++ " AND " ++
      high.operand
  | .cast target => do
    let operand ← pieces[0]?
    return "CAST(" ++ operand.text ++ " AS " ++ target.sqlName ++ ")"
  | .call name => some (name ++ "(" ++ commaSeparated pieces ++ ")")
  | .aggregate op distinct =>
    if pieces.isEmpty then some (op.symbol ++ "(*)")
    else do
      let argument ← pieces[0]?
      return op.symbol ++ "(" ++ (if distinct then "DISTINCT " else "") ++ argument.text ++ ")"

namespace Expr

mutual

def checkedSql? : Expr → Option String
  | node kind children _ => (checkedPieces? children).bind kind.checkedSql?

def checkedPieces? : List Expr → Option (List Piece)
  | [] => some []
  | e :: es => do
    let text ← e.checkedSql?
    let rest ← checkedPieces? es
    return ⟨text, e.kind.isSelfContained⟩ :: rest

end

end Expr

/-- Where all children are there nothing stands in for one. -/
theorem Kind.checkedSql?_eq {kind : Kind} {pieces : List Piece} (fits : kind.takes pieces.length) :
    kind.checkedSql? pieces = some (kind.sql pieces) := by
  cases kind with
  | slot ref => rfl
  | literal value => rfl
  | arithmetic op | comparison op | pattern op =>
    obtain ⟨l, r, rfl⟩ := List.length_eq_two.1 fits
    rfl
  | connective op =>
    cases op with
    | not =>
      obtain ⟨p, rfl⟩ := List.length_eq_one_iff.1 fits
      rfl
    | and | or =>
      obtain ⟨l, r, rfl⟩ := List.length_eq_two.1 fits
      rfl
  | nullTest negated | cast target =>
    obtain ⟨p, rfl⟩ := List.length_eq_one_iff.1 fits
    rfl
  | membership negated =>
    cases pieces with
    | nil => simp [Kind.takes] at fits
    | cons p ps => rfl
  | range negated =>
    obtain ⟨p, low, high, rfl⟩ := List.length_eq_three.1 fits
    rfl
  | call name => rfl
  | aggregate op distinct =>
    rcases fits with one | ⟨zero, -⟩
    · obtain ⟨p, rfl⟩ := List.length_eq_one_iff.1 one
      rfl
    · obtain rfl := List.length_eq_zero_iff.1 zero
      rfl

namespace Expr

theorem checkedPieces?_eq {es : List Expr} (each : ∀ e ∈ es, e.checkedSql? = some e.sql) :
    checkedPieces? es = some (pieces es) := by
  induction es with
  | nil => rfl
  | cons e es ih =>
    obtain ⟨first, others⟩ := List.forall_mem_cons.1 each
    rw [checkedPieces?, first, ih others]
    rfl

theorem checkedSql?_eq {e : Expr} (fits : e.FitsArity) : e.checkedSql? = some e.sql := by
  induction e using children_induction with
  | node kind children ty ih =>
    obtain ⟨own, below⟩ := fitsArity_node.1 fits
    have count : kind.takes (pieces children).length := by
      rwa [pieces_eq_map, List.length_map]
    rw [checkedSql?, checkedPieces?_eq fun c member => ih c member (below c member), sql]
    exact Kind.checkedSql?_eq count

end Expr

namespace Analyzer

/-- The type of a node, if all the children are there whose types it reads one by one, and as many
as a connective has operands. -/
def checkedRule? (a : Analyzer) (kind : Kind) (children : List Expr) :
    Option (Except AnalysisError DataType) :=
  let types := children.map Expr.ty
  let text? (_ : Unit) := (Expr.node kind children .invalid).checkedSql?
  match kind with
  | .slot ref => some (a.slotType ref.slot)
  | .literal value => some (.ok value.ty)
  | .arithmetic op => do
    let left ← types[0]?
    let right ← types[1]?
    return orFail (op.result? left right) (.operandTypes op.symbol left right)
  | .comparison op => do
    let left ← types[0]?
    let right ← types[1]?
    match op.result? left right with
    | some t => return .ok t
    | none => return .error (.incompatible (← text? ()) left right)
  | .connective op =>
    match types.find? (!op.accepts ·) with
    | some t => some (.error (.nonBooleanOperand op.symbol t))
    | none => if types.length = op.arity then some (.ok .boolean) else none
  | .nullTest _ => some (.ok .boolean)
  | .pattern op => do
    let left ← types[0]?
    let right ← types[1]?
    return orFail (op.result? left right) (.operandTypes op.symbol left right)
  | .membership _ | .range _ => do
    let compared ← types[0]?
    match (types.drop 1).find? fun t => (compared.common? t).isNone with
    | some t => return .error (.incompatible (← text? ()) compared t)
    | none => return .ok .boolean
  | .cast target => do
    let source ← types[0]?
    return if source.castableTo target then .ok target else .error (.invalidCast source target)
  | .call name => some (orFail (a.functions name types) (.unknownFunction name types))
  | .aggregate op _ =>
    if Expr.anyContains .aggregate (children.take 1) then do
      return .error (.nestedAggregate (← text? ()))
    else
      match op.result? types.head? with
      | some t => some (.ok t)
      | none => do
        let argument ← types[0]?
        return .error (.aggregateArgument op.symbol argument)

theorem checkedRule?_eq {a : Analyzer} {kind : Kind} {children : List Expr} {ty : DataType}
    (fits : (Expr.node kind children ty).FitsArity) :
    a.checkedRule? kind children = some (a.rule kind children) := by
  obtain ⟨own, below⟩ := Expr.fitsArity_node.1 fits
  have text : (Expr.node kind children .invalid).checkedSql? =
      some (Expr.node kind children .invalid).sql :=
    Expr.checkedSql?_eq (Expr.fitsArity_node.2 ⟨own, below⟩)
  cases kind with
  | slot ref => rfl
  | literal value => rfl
  | arithmetic op | pattern op =>
    obtain ⟨l, r, rfl⟩ := List.length_eq_two.1 own
    rfl
  | comparison op =>
    obtain ⟨l, r, rfl⟩ := List.length_eq_two.1 own
    simp only [checkedRule?, rule, text, List.map_cons, List.map_nil, List.getElem?_cons_zero,
      List.getElem?_cons_succ, List.getD_cons_zero, List.getD_cons_succ, Option.bind_eq_bind,
      Option.bind_some, Option.pure_def]
    cases op.result? l.ty r.ty <;> rfl
  | connective op =>
    have count : (children.map Expr.ty).length = op.arity := by
      rw [List.length_map]
      exact own
    simp only [checkedRule?, rule, count, if_true]
    cases (children.map Expr.ty).find? (!op.accepts ·) <;> rfl
  | nullTest negated => rfl
  | membership negated | range negated =>
    cases children with
    | nil => simp [Kind.takes] at own
    | cons c cs =>
      simp only [checkedRule?, rule, text, List.map_cons, List.getElem?_cons_zero,
        List.getD_cons_zero, List.drop_succ_cons, List.drop_zero, Option.bind_eq_bind,
        Option.bind_some, Option.pure_def]
      cases (cs.map Expr.ty).find? fun t => (c.ty.common? t).isNone <;> rfl
  | cast target =>
    obtain ⟨c, rfl⟩ := List.length_eq_one_iff.1 own
    rfl
  | call name => rfl
  | aggregate op distinct =>
    simp only [checkedRule?, rule, text]
    split
    next => rfl
    next =>
      rcases own with one | ⟨zero, rfl, -⟩
      · obtain ⟨c, rfl⟩ := List.length_eq_one_iff.1 one
        cases op.result? ([c].map Expr.ty).head? <;> rfl
      · rfl

end Analyzer

namespace Expr

/-- In a tree that callers can get hold of every node has as many children as its kind takes. So its
text shows no stand-in for a missing operand, and no rule reads the type of one or finds a
connective with too few or too many, whatever types the children have by then. -/
theorem obtained_operands_present {e : Expr} (obtained : e.Obtained) :
    ∀ n ∈ e.nodes, n.kind.takes n.children.length ∧ n.checkedSql? = some n.sql ∧
      ∀ (a : Analyzer) (typed : List Expr), typed.map bare = n.children.map bare →
        a.checkedRule? n.kind typed = some (a.rule n.kind typed) := by
  intro n inside
  have fits : n.FitsArity := fun m below => obtained.fitsArity m (mem_nodes_trans inside below)
  refine ⟨fits n (self_mem_nodes n), checkedSql?_eq fits, ?_⟩
  intro a typed same
  obtain ⟨kind, children, ty⟩ := n
  have kinds : (node kind children ty).bare = (node kind typed ty).bare :=
    node_bare_eq_iff.2 ⟨rfl, map_eq_map_iff_forall₂.1 same.symm⟩
  exact Analyzer.checkedRule?_eq (fitsArity_of_bare_eq kinds fits)

/-- A substitution puts an aggregate without an argument in the place of a number, and the analysis
of the new tree fails. -/
theorem counted_rows_beside_text :
    let m : Substitution := ⟨[(.literal (.int 1), .countStar)]⟩
    let e : Expr := .comparison .lt (.literal (.int 1)) (.literal (.string "x"))
    let a : Analyzer := { scope := { number := 1 } }
    let left : Expr := (a.analyze (e.substitute m)).result
    (a.analyze (e.substitute m)).failure = some (.incompatible "COUNT(*) < 'x'" .bigInt .string) ∧
      left.Obtained ∧ ∀ n ∈ left.nodes,
        n.kind.takes n.children.length ∧ n.checkedSql? = some n.sql := by
  intro m e a left
  have failed : (a.analyze (e.substitute m)).failure =
      some (.incompatible "COUNT(*) < 'x'" .bigInt .string) := by decide +kernel
  have number : Obtained (.literal (.int 1)) := .made (.literal _) nofun
  have built : e.Obtained :=
    .made (.comparison _ _ _) (by simp [number, Obtained.made (.literal (.string "x")) nofun])
  have patterns : ∀ p ∈ m.patterns, Obtained p := by simpa [m, Substitution.patterns] using number
  have replacements : ∀ r ∈ m.replacements, Obtained r := by
    simpa [m, Substitution.replacements] using Obtained.made .countStar nofun
  have obtained : left.Obtained := .analyzed a (.substituted m patterns replacements built)
  refine ⟨failed, obtained, fun n inside => ?_⟩
  obtain ⟨own, text, -⟩ := obtained_operands_present obtained n inside
  exact ⟨own, text⟩

end Expr
end ScalarSql

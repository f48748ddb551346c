import ScalarSql.Analysis.Functions
import ScalarSql.Analysis.Limits
import ScalarSql.Expr.Search
import ScalarSql.Expr.Sql
import ScalarSql.Scope.Basic

/-!
Analysis of expressions. The walk goes over a tree bottom up, children from left to right, and
gives each node its type by the rule for its kind. The first failure ends it: nodes reached before
keep their new types, all others the types they had. The equations of the walk are `walk_node`,
`walkAll_nil` and `walkAll_cons`.
-/
namespace ScalarSql

/-- What analysis relies on: the slots of a scope, the functions and the limits. -/
structure Analyzer where
  scope : Scope
  functions : Functions := Builtin.functions
  limits : Limits := {}

/-- One question to the functions. -/
structure Call where
  name : String
  arguments : List DataType
  deriving DecidableEq, Repr

/-- What a walk leaves: the trees it went over, the calls it resolved in their order, and the
failure that ended it, if any. -/
structure Outcome (α : Type) where
  result : α
  calls : List Call
  failure : Option AnalysisError

namespace Outcome

/-- The same after earlier calls, where the latest call comes first. -/
def after {α : Type} (o : Outcome α) (made : List Call) : Outcome α :=
  { o with calls := o.calls ++ made }

/-- The first call first, from the latest first. -/
def inOrder {α : Type} (o : Outcome α) : Outcome α := { o with calls := o.calls.reverse }

end Outcome

/-- The call that typing a node makes: only function calls ask the functions. -/
def Kind.calls (kind : Kind) (children : List Expr) : List Call :=
  match kind with
  | .call name => [⟨name, children.map Expr.ty⟩]
  | _ => []

theorem Kind.calls_reverse (kind : Kind) (children : List Expr) :
    (kind.calls children).reverse = kind.calls children := by
  cases kind <;> rfl

/-- The value, or else the reason why there is none. -/
def orFail {α : Type} (value : Option α) (e : AnalysisError) : Except AnalysisError α :=
  match value with
  | some a => .ok a
  | none => .error e

namespace Analyzer

def slotType (a : Analyzer) (id : SlotId) : Except AnalysisError DataType :=
  match a.scope.slot? id with
  | none => .error (.unknownSlot id)
  | some slot => if slot.ty.isValid then .ok slot.ty else .error (.untypedSlot id)

/-- The type of a node whose children have theirs. -/
def rule (a : Analyzer) (kind : Kind) (children : List Expr) : Except AnalysisError DataType :=
  let types := children.map Expr.ty
  let left := types.getD 0 .invalid
  let right := types.getD 1 .invalid
  let text (_ : Unit) := (Expr.node kind children .invalid).sql
  match kind with
  | .slot ref => a.slotType ref.slot
  | .literal value => .ok value.ty
  | .arithmetic op => orFail (op.result? left right) (.operandTypes op.symbol left right)
  | .comparison op =>
    match op.result? left right with
    | some t => .ok t
    | none => .error (.incompatible (text ()) left right)
  | .connective op =>
    match types.find? (!op.accepts ·) with
    | some t => .error (.nonBooleanOperand op.symbol t)
    | none => .ok .boolean
  | .nullTest _ => .ok .boolean
  | .pattern op => orFail (op.result? left right) (.operandTypes op.symbol left right)
  | .membership _ | .range _ =>
    match (types.drop 1).find? fun t => (left.common? t).isNone with
    | some t => .error (.incompatible (text ()) left t)
    | none => .ok .boolean
  | .cast target => if left.castableTo target then .ok target else .error (.invalidCast left target)
  | .call name => orFail (a.functions name types) (.unknownFunction name types)
  | .aggregate op _ =>
    if Expr.anyContains .aggregate (children.take 1) then .error (.nestedAggregate (text ()))
    else orFail (op.result? types.head?) (.aggregateArgument op.symbol left)

mutual

/-- A walk after the calls `made`, the latest call first. -/
def walkAfter (a : Analyzer) (made : List Call) (depth : Nat) : Expr → Outcome Expr
  | .node kind children ty =>
    match a.limits.violation? depth children.length with
    | some e => ⟨.node kind children ty, made, some e⟩
    | none =>
      let below := walkAllAfter a made (depth + 1) children
      match below.failure with
      | some e => ⟨.node kind below.result ty, below.calls, some e⟩
      | none =>
        let calls := kind.calls below.result ++ below.calls
        match a.rule kind below.result with
        | .ok resolved => ⟨.node kind below.result resolved, calls, none⟩
        | .error e => ⟨.node kind below.result ty, calls, some e⟩

def walkAllAfter (a : Analyzer) (made : List Call) (depth : Nat) :
    List Expr → Outcome (List Expr)
  | [] => ⟨[], made, none⟩
  | e :: es =>
    let first := walkAfter a made depth e
    match first.failure with
    | some failure => ⟨first.result :: es, first.calls, some failure⟩
    | none =>
      let rest := walkAllAfter a first.calls depth es
      ⟨first.result :: rest.result, rest.calls, rest.failure⟩

end

def walk (a : Analyzer) (depth : Nat) (e : Expr) : Outcome Expr :=
  (walkAfter a [] depth e).inOrder

def walkAll (a : Analyzer) (depth : Nat) (es : List Expr) : Outcome (List Expr) :=
  (walkAllAfter a [] depth es).inOrder

/-- A list of trees is walked alike if each tree is. -/
theorem walkAllAfter_of_each {a : Analyzer} {es : List Expr}
    (each : ∀ e ∈ es, ∀ made depth,
      walkAfter a made depth e = (walkAfter a [] depth e).after made) :
    ∀ made depth, walkAllAfter a made depth es = (walkAllAfter a [] depth es).after made := by
  induction es with
  | nil => intros; rfl
  | cons e es ih =>
    intro made depth
    have others := ih fun d member => each d (by simp [member])
    simp only [walkAllAfter]
    rw [each e (by simp) made]
    cases failed : (walkAfter a [] depth e).failure with
    | some failure => simp [Outcome.after, failed]
    | none =>
      simp only [Outcome.after, failed]
      rw [others, others (walkAfter a [] depth e).calls]
      simp [Outcome.after]

/-- Earlier calls do not change what a walk does. -/
theorem walkAfter_eq_after (a : Analyzer) (e : Expr) : ∀ made depth,
    walkAfter a made depth e = (walkAfter a [] depth e).after made := by
  induction e using Expr.children_induction with
  | node kind children ty ih =>
    intro made depth
    simp only [walkAfter]
    rw [walkAllAfter_of_each ih]
    cases a.limits.violation? depth children.length with
    | some e => simp [Outcome.after]
    | none =>
      cases failed : (walkAllAfter a [] (depth + 1) children).failure with
      | some e => simp [Outcome.after, failed]
      | none =>
        simp only [Outcome.after, failed]
        cases a.rule kind (walkAllAfter a [] (depth + 1) children).result <;> simp

theorem walkAllAfter_eq_after (a : Analyzer) (es : List Expr) : ∀ made depth,
    walkAllAfter a made depth es = (walkAllAfter a [] depth es).after made :=
  walkAllAfter_of_each fun e _ => walkAfter_eq_after a e

theorem walk_node (a : Analyzer) (depth : Nat) (kind : Kind) (children : List Expr)
    (ty : DataType) :
    walk a depth (.node kind children ty) =
      match a.limits.violation? depth children.length with
      | some e => ⟨.node kind children ty, [], some e⟩
      | none =>
        let below := walkAll a (depth + 1) children
        match below.failure with
        | some e => ⟨.node kind below.result ty, below.calls, some e⟩
        | none =>
          let calls := below.calls ++ kind.calls below.result
          match a.rule kind below.result with
          | .ok resolved => ⟨.node kind below.result resolved, calls, none⟩
          | .error e => ⟨.node kind below.result ty, calls, some e⟩ := by
  simp only [walk, walkAll, walkAfter, Outcome.inOrder]
  cases a.limits.violation? depth children.length with
  | some e => rfl
  | none =>
    cases failed : (walkAllAfter a [] (depth + 1) children).failure with
    | some e => rfl
    | none =>
      cases a.rule kind (walkAllAfter a [] (depth + 1) children).result <;>
        simp [Kind.calls_reverse]

theorem walkAll_nil (a : Analyzer) (depth : Nat) : walkAll a depth [] = ⟨[], [], none⟩ := rfl

theorem walkAll_cons (a : Analyzer) (depth : Nat) (e : Expr) (es : List Expr) :
    walkAll a depth (e :: es) =
      let first := walk a depth e
      match first.failure with
      | some failure => ⟨first.result :: es, first.calls, some failure⟩
      | none =>
        let rest := walkAll a depth es
        ⟨first.result :: rest.result, first.calls ++ rest.calls, rest.failure⟩ := by
  simp only [walk, walkAll, walkAllAfter, Outcome.inOrder]
  cases failed : (walkAfter a [] depth e).failure with
  | some failure => rfl
  | none =>
    rw [walkAllAfter_eq_after]
    simp [Outcome.after]

def analyze (a : Analyzer) (e : Expr) : Outcome Expr := a.walk 1 e

/-- Expressions after the first refused one are not touched. -/
def analyzeAll (a : Analyzer) (es : List Expr) : Outcome (List Expr) := a.walkAll 1 es

end Analyzer
end ScalarSql

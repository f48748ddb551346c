import ScalarSql.Expr.Rewrite

/-!
Diagnostic text of expressions: the name of the node and, in braces, its payload followed by its
children in parentheses.
-/
namespace ScalarSql

def Kind.debugName : Kind → String
  | .slot _ => "SlotRef"
  | .literal value => value.debugName
  | .arithmetic _ => "ArithmeticExpr"
  | .comparison _ => "BinaryPredicate"
  | .connective _ => "CompoundPredicate"
  | .nullTest _ => "IsNullPredicate"
  | .pattern _ => "LikePredicate"
  | .membership _ => "InPredicate"
  | .range _ => "BetweenPredicate"
  | .cast _ => "CastExpr"
  | .call _ => "FunctionCallExpr"
  | .aggregate _ _ => "AggregateExpr"

/-- Only NULL has no payload. -/
def Kind.debugPayload : Kind → String
  | .slot ref =>
    "slot_id=" ++ ref.slot.text ++ " tuple_id=" ++ ref.tuple.text ++
      (match ref.label with
        | some label => " col=" ++ label
        | none => "")
  | .literal value =>
    match value.debugValue? with
    | some text => "value=" ++ text
    | none => ""
  | .arithmetic op => "op=" ++ op.symbol
  | .comparison op => "op=" ++ op.symbol
  | .connective op => "op=" ++ op.symbol
  | .nullTest negated => "not_null=" ++ toString negated
  | .pattern op => "op=" ++ op.symbol
  | .membership negated => "not_in=" ++ toString negated
  | .range negated => "not_between=" ++ toString negated
  | .cast target => "target=" ++ target.sqlName
  | .call name => "name=" ++ name
  | .aggregate op distinct => "op=" ++ op.symbol ++ " distinct=" ++ toString distinct

/-- Items in parentheses, nothing for none. -/
def debugGroup (items : List String) : String :=
  if items.isEmpty then "" else "(" ++ " ".intercalate items ++ ")"

/-- The text of a node from those of its children; a blank stands between the payload and the
children if there are both. -/
def Kind.debug (kind : Kind) (children : List String) : String :=
  let payload := kind.debugPayload
  let head := kind.debugName ++ "\x7b" ++ payload
  if children.isEmpty then head ++ "\x7d"
  else
    let opening := if payload.isEmpty then "(" else " ("
    head ++ opening ++ " ".intercalate children ++ ")\x7d"

namespace Expr

mutual

def debug : Expr → String
  | node kind children _ => kind.debug (debugItems children)

def debugItems : List Expr → List String
  | [] => []
  | e :: es => e.debug :: debugItems es

end

theorem debugItems_eq_map (es : List Expr) : debugItems es = es.map debug := by
  induction es with
  | nil => rfl
  | cons e es ih => simp [debugItems, ih]

def debugAll (es : List Expr) : String := debugGroup (debugItems es)

end Expr

def Substitution.debug (m : Substitution) : String :=
  "substmap(" ++ " ".intercalate (m.pairs.map fun pair => pair.1.debug ++ ":" ++ pair.2.debug)
    ++ ")"

end ScalarSql

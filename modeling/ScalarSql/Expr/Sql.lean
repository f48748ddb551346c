import ScalarSql.Expr.Basic

/-!
SQL text of expressions. An operand of an operator stands in parentheses unless it is a reference,
a constant or something that brings its own parentheses. List items and arguments are never put
in parentheses.
-/
namespace ScalarSql

/-- Written without parentheses as an operand. -/
def Kind.isSelfContained : Kind → Bool
  | .slot _ | .literal _ | .cast _ | .call _ | .aggregate _ _ => true
  | _ => false

def SlotRef.sql (ref : SlotRef) : String :=
  ref.label.getD ("_slot_" ++ ref.slot.text)

/-- The text of a child and whether it needs no parentheses. -/
structure Piece where
  text : String
  selfContained : Bool

def Piece.operand (piece : Piece) : String :=
  if piece.selfContained then piece.text else "(" ++ piece.text ++ ")"

def missingOperand : Piece := ⟨"?", true⟩

def commaSeparated (pieces : List Piece) : String := ", ".intercalate (pieces.map (·.text))

def negatable (negated : Bool) (word : String) : String :=
  if negated then "NOT " ++ word else word

/-- A node from the pieces of its children. -/
def Kind.sql (kind : Kind) (pieces : List Piece) : String :=
  let argument := (pieces.getD 0 missingOperand).text
  let first := (pieces.getD 0 missingOperand).operand
  let second := (pieces.getD 1 missingOperand).operand
  let third := (pieces.getD 2 missingOperand).operand
  let joined (symbol : String) := first ++ " " ++ symbol ++ " " ++ second
  match kind with
  | .slot ref => ref.sql
  | .literal value => value.sql
  | .arithmetic op => joined op.symbol
  | .comparison op => joined op.symbol
  | .connective .not => "NOT " ++ first
  | .connective op => joined op.symbol
  | .nullTest negated => first ++ " IS " ++ negatable negated "NULL"
  | .pattern op => joined op.symbol
  | .membership negated =>
    first ++ " " ++ negatable negated "IN" ++ " (" ++ commaSeparated (pieces.drop 1) ++ ")"
  | .range negated =>
    first ++ " " ++ negatable negated "BETWEEN" ++ " " ++ second ++ " AND " ++ third
  | .cast target => "CAST(" ++ argument ++ " AS " ++ target.sqlName ++ ")"
  | .call name => name ++ "(" ++ commaSeparated pieces ++ ")"
  | .aggregate op distinct =>
    if pieces.isEmpty then op.symbol ++ "(*)"
    else op.symbol ++ "(" ++ (if distinct then "DISTINCT " else "") ++ argument ++ ")"

namespace Expr

mutual

def sql : Expr → String
  | node kind children _ => kind.sql (pieces children)

def pieces : List Expr → List Piece
  | [] => []
  | e :: es => ⟨e.sql, e.kind.isSelfContained⟩ :: pieces es

end

theorem pieces_eq_map (es : List Expr) :
    pieces es = es.map fun e => ⟨e.sql, e.kind.isSelfContained⟩ := by
  induction es with
  | nil => rfl
  | cons e es ih => simp [pieces, ih]

end Expr
end ScalarSql

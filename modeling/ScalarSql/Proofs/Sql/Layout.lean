import ScalarSql.Expr.Sql
import ScalarSql.Proofs.Text.Words
import ScalarSql.Proofs.Tree.Built

/-!
How the SQL text of a node is laid out. A node that stands without parentheses as an operand is a
string literal or starts with a word, behind which there is nothing or a parenthesis. Any other node
is a negation, or has its first operand in front of a connector that tells its kind.
-/
namespace ScalarSql

namespace Kind

/-- Labels are qualified names, function names are identifiers in lower case, and there are no
doubles. -/
def Legible : Kind → Prop
  | .slot ref => ∀ label, ref.label = some label → Text.Qualified label
  | .literal (.double _) => False
  | .call name => Text.Identifier Char.isLower name.toList
  | _ => True

/-- The kind with the text of a slot reference in place of its ids. -/
def displayed : Kind → Kind
  | .slot ref => .slot ⟨⟨0, 0⟩, ⟨0, 0⟩, some ref.sql⟩
  | kind => kind

/-- The word that a node of the kind starts with, if it needs no parentheses. -/
def word : Kind → List Char
  | .slot ref => ref.sql.toList
  | .literal value => value.sql.toList
  | .cast _ => "CAST".toList
  | .call name => name.toList
  | .aggregate op _ => op.symbol.toList
  | _ => []

/-- Nothing stands behind the word. -/
def isLeaf : Kind → Bool
  | .slot _ | .literal _ => true
  | _ => false

def isString : Kind → Bool
  | .literal (.string _) => true
  | _ => false

/-- What stands between the first operand and the second, or behind the only one. -/
def connector : Kind → Option (List Char)
  | .arithmetic op => some (" " ++ op.symbol ++ " ").toList
  | .comparison op => some (" " ++ op.symbol ++ " ").toList
  | .connective .not => none
  | .connective op => some (" " ++ op.symbol ++ " ").toList
  | .nullTest negated => some (" IS " ++ negatable negated "NULL").toList
  | .pattern op => some (" " ++ op.symbol ++ " ").toList
  | .membership negated => some (" " ++ negatable negated "IN" ++ " (").toList
  | .range negated => some (" " ++ negatable negated "BETWEEN" ++ " ").toList
  | _ => none

theorem exists_string {kind : Kind} (string : kind.isString = true) :
    ∃ s, kind = .literal (.string s) := by
  cases kind with
  | literal value =>
    cases value with
    | string s => exact ⟨s, rfl⟩
    | _ => cases string
  | _ => cases string

/-- A node is written by itself, behind NOT, or around a connector. -/
theorem layout_cases (kind : Kind) :
    (kind.isSelfContained = true ∧ kind.connector = none) ∨ kind = .connective .not ∨
      (kind.isSelfContained = false ∧ ∃ w, kind.connector = some w) := by
  cases kind with
  | connective op => cases op <;> simp [connector, isSelfContained]
  | _ => simp [connector, isSelfContained]

end Kind

namespace Expr

def text (e : Expr) : List Char := e.sql.toList

def operandText (e : Expr) : List Char :=
  if e.kind.isSelfContained then e.text else '(' :: (e.text ++ [')'])

theorem toList_operand (e : Expr) :
    (Piece.operand ⟨e.sql, e.kind.isSelfContained⟩).toList = e.operandText := by
  unfold Piece.operand operandText
  dsimp only
  split
  · rfl
  · rw [String.toList_append, String.toList_append]
    rfl

/-- The items of a list from the second on, up to the closing parenthesis and what follows. -/
def itemsText : List Expr → List Char → List Char
  | [], rest => ')' :: rest
  | e :: es, rest => ',' :: ' ' :: (e.text ++ itemsText es rest)

/-- The items of a list, in the same way. -/
def listText : List Expr → List Char → List Char
  | [], rest => ')' :: rest
  | e :: es, rest => e.text ++ itemsText es rest

theorem toList_commaSeparated (es : List Expr) (rest : List Char) :
    (commaSeparated (pieces es)).toList ++ ')' :: rest = listText es rest := by
  unfold commaSeparated
  induction es with
  | nil => rfl
  | cons e es ih =>
    cases es with
    | nil => rfl
    | cons f es =>
      have more : (", ".intercalate ((pieces (e :: f :: es)).map (·.text))).toList =
          e.text ++ ',' :: ' ' :: (", ".intercalate ((pieces (f :: es)).map (·.text))).toList := by
        simp only [pieces, List.map_cons, String.intercalate_cons_cons, String.toList_append,
          List.append_assoc]
        rfl
      rw [more, List.append_assoc, List.cons_append, List.cons_append, ih]
      rfl

/-- What stands behind the word of a node. -/
def behindWord : Kind → List Expr → List Char → List Char
  | .cast target, [c], rest =>
    '(' :: (c.text ++ (" AS ".toList ++ (target.sqlName.toList ++ ')' :: rest)))
  | .call _, arguments, rest => '(' :: listText arguments rest
  | .aggregate _ _, [], rest => '(' :: '*' :: ')' :: rest
  | .aggregate _ distinct, [c], rest =>
    '(' :: ((if distinct then "DISTINCT " else "").toList ++ (c.text ++ ')' :: rest))
  | _, _, rest => rest

/-- What stands behind the connector of a node. -/
def behindConnector : Kind → List Expr → List Char → List Char
  | .membership _, members, rest => listText members rest
  | .range _, [low, high], rest =>
    low.operandText ++ (" AND ".toList ++ (high.operandText ++ rest))
  | _, [right], rest => right.operandText ++ rest
  | _, _, rest => rest

/-- Each node has the children and the words that its kind takes. -/
def Regular (e : Expr) : Prop :=
  ∀ n ∈ e.nodes, n.kind.takes n.children.length ∧ n.kind.Legible

theorem regular_node {kind : Kind} {children : List Expr} {ty : DataType} :
    (node kind children ty).Regular ↔
      (kind.takes children.length ∧ kind.Legible) ∧ ∀ c ∈ children, c.Regular :=
  forall_nodes_node

variable {kind : Kind} {children : List Expr}

theorem text_of_string (s : String) (ty : DataType) (rest : List Char) :
    (node (.literal (.string s)) children ty).text ++ rest =
      Text.singleQuote :: (Text.doubled s.toList ++ Text.singleQuote :: rest) := by
  have sql : (node (.literal (.string s)) children ty).sql = Text.quoted s := rfl
  simp only [text, sql, Text.quoted, String.toList_ofList, List.cons_append, List.append_assoc,
    List.nil_append]

theorem text_of_word (takes : kind.takes children.length) (self : kind.isSelfContained = true)
    (plain : kind.isString = false) (ty : DataType) (rest : List Char) :
    (node kind children ty).text ++ rest = kind.word ++ behindWord kind children rest := by
  cases kind with
  | slot ref =>
    rw [List.eq_nil_of_length_eq_zero takes]
    rfl
  | literal value =>
    rw [List.eq_nil_of_length_eq_zero takes]
    rfl
  | cast target =>
    obtain ⟨c, rfl⟩ := List.length_eq_one_iff.1 takes
    have sql : (node (.cast target) [c] ty).sql =
      "CAST(" ++ c.sql ++ " AS " ++ target.sqlName ++ ")" := rfl
    simp only [text, sql, String.toList_append, List.append_assoc]
    rfl
  | call name =>
    have sql : (node (.call name) children ty).sql =
      name ++ "(" ++ commaSeparated (pieces children) ++ ")" := rfl
    have list := toList_commaSeparated children rest
    simp only [text, sql, String.toList_append, List.append_assoc]
    exact congrArg (name.toList ++ '(' :: ·) list
  | aggregate op distinct =>
    rcases takes with one | ⟨none, -, -⟩
    · obtain ⟨c, rfl⟩ := List.length_eq_one_iff.1 one
      have sql : (node (.aggregate op distinct) [c] ty).sql =
        op.symbol ++ "(" ++ (if distinct then "DISTINCT " else "") ++ c.sql ++ ")" := rfl
      simp only [text, sql, String.toList_append, List.append_assoc]
      rfl
    · rw [List.eq_nil_of_length_eq_zero none]
      have sql : (node (.aggregate op distinct) [] ty).sql = op.symbol ++ "(*)" := rfl
      simp only [text, sql, String.toList_append, List.append_assoc]
      rfl
  | _ => cases self

theorem text_of_not (takes : (Kind.connective .not).takes children.length) (ty : DataType) :
    ∃ c, children = [c] ∧
      (node (.connective .not) children ty).text = "NOT ".toList ++ c.operandText := by
  obtain ⟨c, rfl⟩ := List.length_eq_one_iff.1 takes
  refine ⟨c, rfl, ?_⟩
  have sql : (node (.connective .not) [c] ty).sql =
    "NOT " ++ Piece.operand ⟨c.sql, c.kind.isSelfContained⟩ := rfl
  rw [text, sql, String.toList_append, toList_operand]

theorem text_of_symbol {c d : Expr} {ty : DataType} {symbol : String}
    (sql : (node kind [c, d] ty).sql =
      Piece.operand ⟨c.sql, c.kind.isSelfContained⟩ ++ " " ++ symbol ++ " " ++
        Piece.operand ⟨d.sql, d.kind.isSelfContained⟩) (rest : List Char) :
    (node kind [c, d] ty).text ++ rest =
      c.operandText ++ ((" " ++ symbol ++ " ").toList ++ (d.operandText ++ rest)) := by
  simp only [text, sql, String.toList_append, List.append_assoc, toList_operand]

theorem text_of_connector {w : List Char} (takes : kind.takes children.length)
    (joined : kind.connector = some w) (ty : DataType) :
    ∃ first others, children = first :: others ∧ ∀ rest,
      (node kind children ty).text ++ rest =
        first.operandText ++ (w ++ behindConnector kind others rest) := by
  cases kind with
  | arithmetic op =>
    obtain ⟨c, d, rfl⟩ := List.length_eq_two.1 takes
    cases joined
    exact ⟨c, [d], rfl, text_of_symbol rfl⟩
  | comparison op =>
    obtain ⟨c, d, rfl⟩ := List.length_eq_two.1 takes
    cases joined
    exact ⟨c, [d], rfl, text_of_symbol rfl⟩
  | pattern op =>
    obtain ⟨c, d, rfl⟩ := List.length_eq_two.1 takes
    cases joined
    exact ⟨c, [d], rfl, text_of_symbol rfl⟩
  | connective op =>
    cases op with
    | not => cases joined
    | and =>
      obtain ⟨c, d, rfl⟩ := List.length_eq_two.1 takes
      cases joined
      exact ⟨c, [d], rfl, text_of_symbol rfl⟩
    | or =>
      obtain ⟨c, d, rfl⟩ := List.length_eq_two.1 takes
      cases joined
      exact ⟨c, [d], rfl, text_of_symbol rfl⟩
  | nullTest negated =>
    obtain ⟨c, rfl⟩ := List.length_eq_one_iff.1 takes
    cases joined
    refine ⟨c, [], rfl, fun rest => ?_⟩
    have sql : (node (.nullTest negated) [c] ty).sql =
      Piece.operand ⟨c.sql, c.kind.isSelfContained⟩ ++ " IS " ++ negatable negated "NULL" := rfl
    simp only [text, sql, String.toList_append, List.append_assoc, toList_operand]
    rfl
  | membership negated =>
    obtain ⟨c, members, rfl⟩ :=
      List.exists_cons_of_length_pos (Nat.lt_of_lt_of_le Nat.two_pos takes)
    cases joined
    refine ⟨c, members, rfl, fun rest => ?_⟩
    have sql : (node (.membership negated) (c :: members) ty).sql =
      Piece.operand ⟨c.sql, c.kind.isSelfContained⟩ ++ " " ++ negatable negated "IN" ++ " (" ++
        commaSeparated (pieces members) ++ ")" := rfl
    have list := toList_commaSeparated members rest
    simp only [text, sql, String.toList_append, List.append_assoc, toList_operand]
    simp only [behindConnector, ← list]
    rfl
  | range negated =>
    obtain ⟨c, low, high, rfl⟩ := List.length_eq_three.1 takes
    cases joined
    refine ⟨c, [low, high], rfl, fun rest => ?_⟩
    have sql : (node (.range negated) [c, low, high] ty).sql =
      Piece.operand ⟨c.sql, c.kind.isSelfContained⟩ ++ " " ++ negatable negated "BETWEEN" ++ " " ++
        Piece.operand ⟨low.sql, low.kind.isSelfContained⟩ ++ " AND " ++
        Piece.operand ⟨high.sql, high.kind.isSelfContained⟩ := rfl
    simp only [text, sql, String.toList_append, List.append_assoc, toList_operand]
    rfl
  | _ => cases joined

end Expr
end ScalarSql

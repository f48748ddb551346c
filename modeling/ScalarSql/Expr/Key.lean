import ScalarSql.Expr.Basic

/-!
Byte keys of expressions, for use where a hash or an order is wanted. Numbers have a fixed width
and start with their lowest byte, sequences and texts start with their length, alternatives with
their number. Types and labels are left out, as they are in comparing expressions.
-/
namespace ScalarSql

namespace Key

/-- The lowest `width` bytes of a number, lowest first. -/
def bytes : Nat → Nat → List UInt8
  | 0, _ => []
  | width + 1, n => UInt8.ofNat (n % 256) :: bytes width (n / 256)

/-- The number of an alternative. -/
def tag (n : Nat) : List UInt8 := bytes 4 n

def length (n : Nat) : List UInt8 := bytes 8 n

def flag (b : Bool) : List UInt8 := [if b then 1 else 0]

def text (s : String) : List UInt8 :=
  length s.utf8ByteSize ++ s.toUTF8.data.toList

end Key

open Key

def SlotRef.key (ref : SlotRef) : List UInt8 :=
  bytes 4 ref.tuple.scope.toNat ++ bytes 4 ref.tuple.index.toNat ++
    bytes 4 ref.slot.scope.toNat ++ bytes 4 ref.slot.index.toNat

def Literal.key : Literal → List UInt8
  | .null => tag 0
  | .boolean b => tag 1 ++ flag b
  | .int v => tag 2 ++ bytes 8 v.toUInt64.toNat
  | .double v => tag 3 ++ bytes 8 v.bits.toNat
  | .string s => tag 4 ++ text s

/-- The place of an operator in the list of all its like. -/
def Arithmetic.key (op : Arithmetic) : List UInt8 := tag (Arithmetic.all.idxOf op)

def Comparison.key (op : Comparison) : List UInt8 := tag (Comparison.all.idxOf op)

def Connective.key (op : Connective) : List UInt8 := tag (Connective.all.idxOf op)

def Pattern.key (op : Pattern) : List UInt8 := tag (Pattern.all.idxOf op)

def Aggregate.key (op : Aggregate) : List UInt8 := tag (Aggregate.all.idxOf op)

def Kind.key : Kind → List UInt8
  | .slot ref => tag 0 ++ ref.key
  | .literal value => tag 1 ++ value.key
  | .arithmetic op => tag 2 ++ op.key
  | .comparison op => tag 3 ++ op.key
  | .connective op => tag 4 ++ op.key
  | .nullTest negated => tag 5 ++ flag negated
  | .pattern op => tag 6 ++ op.key
  | .membership negated => tag 7 ++ flag negated
  | .range negated => tag 8 ++ flag negated
  | .cast target => tag 9 ++ tag target.code
  | .call name => tag 10 ++ text name
  | .aggregate op distinct => tag 11 ++ op.key ++ flag distinct

namespace Expr

mutual

/-- The key of a tree in front of other bytes. -/
def keyOnto : Expr → List UInt8 → List UInt8
  | node kind children _, rest =>
    kind.key ++ (length children.length ++ keyItemsOnto children rest)

def keyItemsOnto : List Expr → List UInt8 → List UInt8
  | [], rest => rest
  | e :: es, rest => e.keyOnto (keyItemsOnto es rest)

end

/-- The kind, the number of children and the keys of the children. -/
def key (e : Expr) : List UInt8 := e.keyOnto []

theorem keyItemsOnto_eq_foldr (es : List Expr) (rest : List UInt8) :
    keyItemsOnto es rest = es.foldr keyOnto rest := by
  induction es with
  | nil => rfl
  | cons e es ih => simp [keyItemsOnto, ih]

theorem keyOnto_eq_append (e : Expr) : ∀ rest, e.keyOnto rest = e.keyOnto [] ++ rest := by
  induction e using children_induction with
  | node kind children ty ih =>
    intro rest
    simp only [keyOnto, keyItemsOnto_eq_foldr]
    rw [foldr_eq_flatMap ih, foldr_eq_flatMap ih []]
    simp

theorem key_node (kind : Kind) (children : List Expr) (ty : DataType) :
    (node kind children ty).key =
      kind.key ++ length children.length ++ children.flatMap key := by
  simp only [key, keyOnto, keyItemsOnto_eq_foldr]
  rw [foldr_eq_flatMap fun c _ => keyOnto_eq_append c, List.append_nil, List.append_assoc]
  rfl

end Expr

/-- Keys are ordered by the first byte that differs; a key comes after its own beginnings. -/
def Key.atMost : List UInt8 → List UInt8 → Bool
  | [], _ => true
  | _ :: _, [] => false
  | a :: as, b :: bs => a < b || a == b && Key.atMost as bs

end ScalarSql

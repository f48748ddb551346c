import ScalarSql.Ident
import ScalarSql.Literal
import ScalarSql.Operator

/-!
Trees of scalar expressions. A node holds its kind, its children in order and its type, which is
`invalid` until analysis sets it. Two trees are the same expression, `a == b`, if kinds and
children agree; types and the labels of slot references take no part.
-/
namespace ScalarSql

/-- The label is only for display. -/
structure SlotRef where
  tuple : TupleId
  slot : SlotId
  label : Option String
  deriving DecidableEq

/-- What a node is, apart from its children. -/
inductive Kind where
  | slot (ref : SlotRef)
  | literal (value : Literal)
  | arithmetic (op : Arithmetic)
  | comparison (op : Comparison)
  | connective (op : Connective)
  | nullTest (negated : Bool)
  | pattern (op : Pattern)
  | membership (negated : Bool)
  | range (negated : Bool)
  | cast (target : DataType)
  | call (name : String)
  | aggregate (op : Aggregate) (distinct : Bool)
  deriving DecidableEq

/-- A kind without its payload. -/
inductive Shape where
  | slot | literal | arithmetic | comparison | connective | nullTest | pattern
  | membership | range | cast | call | aggregate
  deriving DecidableEq, Repr

namespace Kind

def shape : Kind → Shape
  | slot _ => .slot
  | literal _ => .literal
  | arithmetic _ => .arithmetic
  | comparison _ => .comparison
  | connective _ => .connective
  | nullTest _ => .nullTest
  | pattern _ => .pattern
  | membership _ => .membership
  | range _ => .range
  | cast _ => .cast
  | call _ => .call
  | aggregate _ _ => .aggregate

def unlabeled : Kind → Kind
  | slot ref => slot { ref with label := none }
  | kind => kind

/-- Equal up to the label of a slot reference. -/
def same (a b : Kind) : Bool := a.unlabeled == b.unlabeled

theorem same_iff {a b : Kind} : a.same b = true ↔ a.unlabeled = b.unlabeled := by
  simp [same]

theorem shape_unlabeled (k : Kind) : k.unlabeled.shape = k.shape := by cases k <;> rfl

theorem same_shape {a b : Kind} (h : a.same b = true) : a.shape = b.shape := by
  rw [← shape_unlabeled a, same_iff.1 h, shape_unlabeled]

end Kind

inductive Expr where
  | node (kind : Kind) (children : List Expr) (ty : DataType)

namespace Expr

/-- Induction with the hypothesis for each child. -/
@[elab_as_elim]
theorem children_induction {motive : Expr → Prop}
    (node : ∀ kind children ty, (∀ c ∈ children, motive c) → motive (.node kind children ty))
    (e : Expr) : motive e :=
  Expr.rec (motive_1 := motive) (motive_2 := fun es => ∀ c ∈ es, motive c)
    (fun kind children ty ih => node kind children ty ih)
    (fun _ member => nomatch member)
    (fun _ _ first others _ member => by
      cases member with
      | head => exact first
      | tail _ rest => exact others _ rest) e

def kind : Expr → Kind
  | node kind _ _ => kind

def children : Expr → List Expr
  | node _ children _ => children

/-- The type as analysis has left it. -/
def ty : Expr → DataType
  | node _ _ ty => ty

def shape (e : Expr) : Shape := e.kind.shape

def setType (e : Expr) (ty : DataType) : Expr := node e.kind e.children ty

def isAnalyzed (e : Expr) : Bool := e.ty.isValid

def isLiteral (e : Expr) : Bool := e.shape == .literal

mutual

def same : Expr → Expr → Bool
  | node a as _, node b bs _ => a.same b && sameAll as bs

def sameAll : List Expr → List Expr → Bool
  | [], [] => true
  | a :: as, b :: bs => a.same b && sameAll as bs
  | _, _ => false

end

instance : BEq Expr := ⟨same⟩

theorem node_beq_iff {a b : Kind} {as bs : List Expr} {s t : DataType} :
    (node a as s == node b bs t) = true ↔ a.same b = true ∧ sameAll as bs = true := by
  show same _ _ = true ↔ _
  simp [same]

theorem sameAll_cons_iff {a b : Expr} {as bs : List Expr} :
    sameAll (a :: as) (b :: bs) = true ↔ (a == b) = true ∧ sameAll as bs = true := by
  show _ ↔ same a b = true ∧ _
  simp [sameAll]

/-- Types take no part in comparing. -/
theorem setType_beq (e : Expr) (ty : DataType) (other : Expr) :
    (e.setType ty == other) = (e == other) := by
  cases e
  cases other
  rfl

theorem beq_refl (e : Expr) : (e == e) = true := by
  induction e using children_induction with
  | node kind children ty ih =>
    refine node_beq_iff.2 ⟨Kind.same_iff.2 rfl, ?_⟩
    induction children with
    | nil => rfl
    | cons c cs others =>
      exact sameAll_cons_iff.2
        ⟨ih c (by simp), others fun d member => ih d (by simp [member])⟩

theorem beq_symm {a : Expr} : ∀ {b : Expr}, (a == b) = true → (b == a) = true := by
  induction a using children_induction with
  | node kind children ty ih =>
    intro b h
    obtain ⟨kind', children', ty'⟩ := b
    obtain ⟨kinds, below⟩ := node_beq_iff.1 h
    refine node_beq_iff.2 ⟨Kind.same_iff.2 (Kind.same_iff.1 kinds).symm, ?_⟩
    clear h kinds
    induction children generalizing children' with
    | nil => cases children' <;> simp_all [sameAll]
    | cons c cs others =>
      cases children' with
      | nil => simp [sameAll] at below
      | cons d ds =>
        obtain ⟨first, rest⟩ := sameAll_cons_iff.1 below
        exact sameAll_cons_iff.2
          ⟨ih c (by simp) first, others (fun e member => ih e (by simp [member])) ds rest⟩

theorem beq_trans {a : Expr} : ∀ {b c : Expr}, (a == b) = true → (b == c) = true →
    (a == c) = true := by
  induction a using children_induction with
  | node kind children ty ih =>
    intro b c hab hbc
    obtain ⟨kind', children', ty'⟩ := b
    obtain ⟨kind'', children'', ty''⟩ := c
    obtain ⟨left, below⟩ := node_beq_iff.1 hab
    obtain ⟨right, below'⟩ := node_beq_iff.1 hbc
    refine node_beq_iff.2
      ⟨Kind.same_iff.2 ((Kind.same_iff.1 left).trans (Kind.same_iff.1 right)), ?_⟩
    clear hab hbc left right
    induction children generalizing children' children'' with
    | nil => cases children' <;> simp_all [sameAll]
    | cons d ds others =>
      cases children' with
      | nil => simp [sameAll] at below
      | cons d' ds' =>
        cases children'' with
        | nil => simp [sameAll] at below'
        | cons d'' ds'' =>
          obtain ⟨first, rest⟩ := sameAll_cons_iff.1 below
          obtain ⟨first', rest'⟩ := sameAll_cons_iff.1 below'
          exact sameAll_cons_iff.2 ⟨ih d (by simp) first first',
            others (fun e member => ih e (by simp [member])) ds' ds'' rest rest'⟩

/-- What each item puts in front of a rest is its own part: the parts come one after the other. -/
theorem foldr_eq_flatMap {α β : Type} {put : α → List β → List β} {items : List α}
    (parts : ∀ a ∈ items, ∀ rest, put a rest = put a [] ++ rest) (rest : List β) :
    items.foldr put rest = items.flatMap (put · []) ++ rest := by
  induction items with
  | nil => rfl
  | cons a as ih =>
    rw [List.foldr_cons, parts a (by simp), ih fun b member => parts b (by simp [member]),
      List.flatMap_cons, List.append_assoc]

mutual

/-- The types of a tree in front of others. -/
def typesOnto : Expr → List DataType → List DataType
  | node _ children ty, rest => ty :: typesAllOnto children rest

def typesAllOnto : List Expr → List DataType → List DataType
  | [], rest => rest
  | e :: es, rest => e.typesOnto (typesAllOnto es rest)

end

/-- The types of all nodes, each node before its children. -/
def types (e : Expr) : List DataType := e.typesOnto []

theorem typesAllOnto_eq_foldr (es : List Expr) (rest : List DataType) :
    typesAllOnto es rest = es.foldr typesOnto rest := by
  induction es with
  | nil => rfl
  | cons e es ih => simp [typesAllOnto, ih]

theorem typesOnto_eq_append (e : Expr) :
    ∀ rest, e.typesOnto rest = e.typesOnto [] ++ rest := by
  induction e using children_induction with
  | node kind children ty ih =>
    intro rest
    simp only [typesOnto, typesAllOnto_eq_foldr]
    rw [foldr_eq_flatMap ih, foldr_eq_flatMap ih []]
    simp

theorem types_node (kind : Kind) (children : List Expr) (ty : DataType) :
    (node kind children ty).types = ty :: children.flatMap types := by
  simp only [types, typesOnto, typesAllOnto_eq_foldr]
  rw [foldr_eq_flatMap fun c _ => typesOnto_eq_append c, List.append_nil]
  rfl

mutual

/-- No slot is referenced. -/
def isConstant : Expr → Bool
  | node kind children _ => kind.shape != .slot && allConstant children

def allConstant : List Expr → Bool
  | [] => true
  | e :: es => e.isConstant && allConstant es

end

theorem allConstant_eq_all (es : List Expr) : allConstant es = es.all isConstant := by
  induction es with
  | nil => rfl
  | cons e es ih => simp [allConstant, ih]

end Expr
end ScalarSql

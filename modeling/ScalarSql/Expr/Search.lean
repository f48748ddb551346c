import ScalarSql.Expr.Basic

/-!
Questions about the nodes of a tree: which nodes of a shape it has, which tuples bind it and which
ids it mentions. Each question has a form for lists of trees.
-/
namespace ScalarSql

/-- Ids met so far, each once and in the order of their first occurrence. -/
structure References where
  tuples : List TupleId := []
  slots : List SlotId := []
  deriving DecidableEq

def References.add (refs : References) (ref : SlotRef) : References where
  tuples := if ref.tuple ∈ refs.tuples then refs.tuples else refs.tuples ++ [ref.tuple]
  slots := if ref.slot ∈ refs.slots then refs.slots else refs.slots ++ [ref.slot]

namespace Expr

mutual

/-- The nodes of a shape in front of others. -/
def collectOnto (shape : Shape) : Expr → List Expr → List Expr
  | node kind children ty, rest =>
    let inner := collectAllOnto shape children rest
    if kind.shape = shape then node kind children ty :: inner else inner

def collectAllOnto (shape : Shape) : List Expr → List Expr → List Expr
  | [], rest => rest
  | e :: es, rest => e.collectOnto shape (collectAllOnto shape es rest)

end

/-- All nodes of a shape, outer ones first; matches inside matches are listed too. -/
def collect (shape : Shape) (e : Expr) : List Expr := e.collectOnto shape []

def collectAll (shape : Shape) (es : List Expr) : List Expr := collectAllOnto shape es []

theorem collectAllOnto_eq_foldr (shape : Shape) (es rest : List Expr) :
    collectAllOnto shape es rest = es.foldr (collectOnto shape) rest := by
  induction es with
  | nil => rfl
  | cons e es ih => simp [collectAllOnto, ih]

theorem collectOnto_eq_append (shape : Shape) (e : Expr) :
    ∀ rest, e.collectOnto shape rest = e.collectOnto shape [] ++ rest := by
  induction e using children_induction with
  | node kind children ty ih =>
    intro rest
    simp only [collectOnto, collectAllOnto_eq_foldr]
    rw [foldr_eq_flatMap ih, foldr_eq_flatMap ih []]
    split <;> simp

theorem collectAll_eq_flatMap (shape : Shape) (es : List Expr) :
    collectAll shape es = es.flatMap (collect shape) := by
  rw [collectAll, collectAllOnto_eq_foldr,
    foldr_eq_flatMap fun e _ => collectOnto_eq_append shape e, List.append_nil]
  rfl

theorem collect_node (shape : Shape) (kind : Kind) (children : List Expr) (ty : DataType) :
    (node kind children ty).collect shape =
      if kind.shape = shape then node kind children ty :: collectAll shape children
      else collectAll shape children := rfl

mutual

def contains (shape : Shape) : Expr → Bool
  | node kind children _ => kind.shape == shape || anyContains shape children

def anyContains (shape : Shape) : List Expr → Bool
  | [] => false
  | e :: es => e.contains shape || anyContains shape es

end

theorem anyContains_eq_any (shape : Shape) (es : List Expr) :
    anyContains shape es = es.any (contains shape) := by
  induction es with
  | nil => rfl
  | cons e es ih => simp [anyContains, ih]

mutual

/-- Every slot reference names one of the tuples. -/
def boundBy (tuples : List TupleId) : Expr → Bool
  | node (.slot ref) _ _ => ref.tuple ∈ tuples
  | node _ children _ => allBoundBy tuples children

def allBoundBy (tuples : List TupleId) : List Expr → Bool
  | [] => true
  | e :: es => e.boundBy tuples && allBoundBy tuples es

end

theorem allBoundBy_eq_all (tuples : List TupleId) (es : List Expr) :
    allBoundBy tuples es = es.all (boundBy tuples) := by
  induction es with
  | nil => rfl
  | cons e es ih => simp [allBoundBy, ih]

mutual

/-- The ids already met, followed by those of the tree that are new. -/
def references (refs : References) : Expr → References
  | node (.slot ref) children _ => referencesAll (refs.add ref) children
  | node _ children _ => referencesAll refs children

def referencesAll (refs : References) : List Expr → References
  | [] => refs
  | e :: es => referencesAll (e.references refs) es

end

theorem referencesAll_eq_foldl (refs : References) (es : List Expr) :
    referencesAll refs es = es.foldl references refs := by
  induction es generalizing refs with
  | nil => rfl
  | cons e es ih => simp [referencesAll, ih]

end Expr
end ScalarSql

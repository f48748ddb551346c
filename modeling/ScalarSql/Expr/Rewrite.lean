import ScalarSql.Expr.Basic

/-!
Replacing subtrees, outermost first. A replacement is taken as it stands: nothing inside it is
replaced again. Nodes above a replacement keep their types. A tree is rewritten by substituting in
it or while it is copied, by two recursions that make the same tree (`copyWith_some`).
-/
namespace ScalarSql

namespace Expr

mutual

def rewrite (replacement? : Expr → Option Expr) : Expr → Expr
  | node kind children ty =>
    match replacement? (node kind children ty) with
    | some r => r
    | none => node kind (rewriteAll replacement? children) ty

def rewriteAll (replacement? : Expr → Option Expr) : List Expr → List Expr
  | [] => []
  | e :: es => e.rewrite replacement? :: rewriteAll replacement? es

end

theorem rewriteAll_eq_map (replacement? : Expr → Option Expr) (es : List Expr) :
    rewriteAll replacement? es = es.map (rewrite replacement?) := by
  induction es with
  | nil => rfl
  | cons e es ih => simp [rewriteAll, ih]

theorem rewrite_of_some {replacement? : Expr → Option Expr} {e r : Expr}
    (h : replacement? e = some r) : e.rewrite replacement? = r := by
  cases e
  simp [rewrite, h]

theorem rewrite_of_none {replacement? : Expr → Option Expr} {kind : Kind} {children : List Expr}
    {ty : DataType} (h : replacement? (node kind children ty) = none) :
    (node kind children ty).rewrite replacement? =
      node kind (children.map (rewrite replacement?)) ty := by
  simp [rewrite, h, rewriteAll_eq_map]

/-- Where nothing is to be replaced the tree stays as it is, types and labels included. -/
theorem rewrite_never (e : Expr) : e.rewrite (fun _ => none) = e := by
  induction e using children_induction with
  | node kind children ty ih =>
    rw [rewrite_of_none rfl, List.map_congr_left (g := id) ih, List.map_id]

end Expr

/-- Patterns and their replacements in the order in which they were put. -/
structure Substitution where
  pairs : List (Expr × Expr) := []

namespace Substitution

def put (m : Substitution) (pattern replacement : Expr) : Substitution :=
  ⟨m.pairs ++ [(pattern, replacement)]⟩

/-- The first pattern that is the same expression decides. -/
def get? (m : Substitution) (e : Expr) : Option Expr :=
  (m.pairs.find? (·.1 == e)).map (·.2)

def size (m : Substitution) : Nat := m.pairs.length

def patterns (m : Substitution) : List Expr := m.pairs.map (·.1)

def replacements (m : Substitution) : List Expr := m.pairs.map (·.2)

/-- The pairs of the first map come first, so they win. -/
def combine (first second : Substitution) : Substitution := ⟨first.pairs ++ second.pairs⟩

theorem get?_combine (first second : Substitution) (e : Expr) :
    (first.combine second).get? e = (first.get? e <|> second.get? e) := by
  simp only [get?, combine, List.find?_append]
  cases first.pairs.find? (·.1 == e) <;> rfl

/-- The same expression gets the same replacement, whatever its types and labels. -/
theorem get?_congr (m : Substitution) {a b : Expr} (h : (a == b) = true) :
    m.get? a = m.get? b := by
  have agree : ∀ p : Expr × Expr, (p.1 == a) = (p.1 == b) := fun p =>
    Bool.eq_iff_iff.2
      ⟨fun left => Expr.beq_trans left h, fun right => Expr.beq_trans right (Expr.beq_symm h)⟩
  simp [get?, agree]

instance : BEq Substitution := ⟨fun a b => a.pairs == b.pairs⟩

end Substitution

namespace Expr

def substitute (m : Substitution) (e : Expr) : Expr := e.rewrite m.get?

def substituteAll (m : Substitution) (es : List Expr) : List Expr := rewriteAll m.get? es

mutual

/-- A copy, rewritten on the way if there is a map. -/
def copyWith (m : Option Substitution) : Expr → Expr
  | node kind children ty =>
    match m.bind (·.get? (node kind children ty)) with
    | some r => r
    | none => node kind (copyAllWith m children) ty

def copyAllWith (m : Option Substitution) : List Expr → List Expr
  | [] => []
  | e :: es => e.copyWith m :: copyAllWith m es

end

theorem copyAllWith_eq_map (m : Option Substitution) (es : List Expr) :
    copyAllWith m es = es.map (copyWith m) := by
  induction es with
  | nil => rfl
  | cons e es ih => rw [copyAllWith, List.map_cons, ih]

theorem copyWith_of_some {m : Substitution} {e r : Expr} (h : m.get? e = some r) :
    e.copyWith (some m) = r := by
  cases e
  simp [copyWith, h]

theorem copyWith_of_none {m : Substitution} {kind : Kind} {children : List Expr} {ty : DataType}
    (h : m.get? (node kind children ty) = none) :
    (node kind children ty).copyWith (some m) =
      node kind (children.map (copyWith (some m))) ty := by
  simp [copyWith, h, copyAllWith_eq_map]

/-- Without a map the copy is the tree itself, types and labels included. -/
theorem copyWith_none (e : Expr) : e.copyWith none = e := by
  induction e using children_induction with
  | node kind children ty ih =>
    have copies : copyAllWith none children = children := by
      rw [copyAllWith_eq_map, List.map_congr_left (g := id) ih, List.map_id]
    rw [copyWith, Option.bind_none, copies]

/-- Copying with a map and substituting, each by its own recursion, make the same tree. -/
theorem copyWith_some (m : Substitution) (e : Expr) : e.copyWith (some m) = e.substitute m := by
  unfold substitute
  induction e using children_induction with
  | node kind children ty ih =>
    cases found : m.get? (node kind children ty) with
    | some r => rw [copyWith_of_some found, rewrite_of_some found]
    | none => rw [copyWith_of_none found, rewrite_of_none found, List.map_congr_left ih]

end Expr
end ScalarSql

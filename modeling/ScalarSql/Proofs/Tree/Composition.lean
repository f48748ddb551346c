import ScalarSql.Proofs.Tree.Rewriting

/-!
Substituting twice. Where the second map replaces leaves only, one map does in one pass what the two
maps do one after the other: the pairs of the first with the second applied to their replacements,
then the pairs of the second (`substitute_substitute`). A node that the first map leaves in its
place cannot become a match of the second by what happens below it, since a match has nothing below
it.
-/
namespace ScalarSql

namespace Substitution

variable {m : Substitution} {e r : Expr}

/-- The map with its replacements rewritten by another one. -/
def rewritten (m next : Substitution) : Substitution :=
  ⟨m.pairs.map fun p => (p.1, p.2.substitute next)⟩

/-- Only nodes without children are replaced. -/
def LeafPatterns (m : Substitution) : Prop := ∀ p ∈ m.pairs, p.1.children = []

theorem get?_rewritten (m next : Substitution) (e : Expr) :
    (m.rewritten next).get? e = (m.get? e).map (Expr.substitute next) := by
  unfold get? rewritten
  rw [List.find?_map, Option.map_map, Option.map_map]
  rfl

theorem LeafPatterns.children_eq_nil (leaves : m.LeafPatterns) (found : m.get? e = some r) :
    e.children = [] := by
  obtain ⟨put, member, same, -⟩ := exists_pair_of_get? found
  obtain ⟨pattern, replacement⟩ := put
  obtain ⟨k, cs, s⟩ := pattern
  obtain ⟨l, ds, t⟩ := e
  obtain rfl : cs = [] := leaves _ member
  obtain ⟨-, below⟩ := Expr.node_beq_iff_forall₂.1 same
  cases below
  rfl

end Substitution

namespace Expr

/-- A node that a map of leaves does not replace is not replaced with other children either. -/
theorem get?_map_children_eq_none {m : Substitution} (leaves : m.LeafPatterns) {kind : Kind}
    {children : List Expr} {ty : DataType} (f : Expr → Expr)
    (missing : m.get? (node kind children ty) = none) :
    m.get? (node kind (children.map f) ty) = none := by
  cases found : m.get? (node kind (children.map f) ty) with
  | none => rfl
  | some r =>
    -- a match would be a leaf, and then the children were none before
    have none_left : children.map f = [] := leaves.children_eq_nil found
    rw [List.map_eq_nil_iff.1 none_left] at missing found
    rw [List.map_nil, missing] at found
    cases found

/-- Two substitutions are one if the second replaces leaves only. The first may replace anything,
and either may hold a pattern more than once. -/
theorem substitute_substitute (first second : Substitution) (leaves : second.LeafPatterns)
    (e : Expr) :
    (e.substitute first).substitute second =
      e.substitute ((first.rewritten second).combine second) := by
  have once : ∀ n, ((first.rewritten second).combine second).get? n =
      ((first.get? n).map (substitute second) <|> second.get? n) := by
    intro n
    rw [Substitution.get?_combine, Substitution.get?_rewritten]
  induction e using children_induction with
  | node kind children ty ih =>
    have here := once (node kind children ty)
    cases found : first.get? (node kind children ty) with
    | some r =>
      rw [found] at here
      rw [substitute_of_some found, substitute_of_some here]
    | none =>
      rw [found] at here
      rw [substitute_of_none found]
      cases next : second.get? (node kind children ty) with
      | some r =>
        rw [next] at here
        obtain rfl : children = [] := leaves.children_eq_nil next
        rw [List.map_nil, substitute_of_some next, substitute_of_some here]
      | none =>
        rw [next] at here
        have unmatched := get?_map_children_eq_none leaves (substitute first) next
        rw [substitute_of_none unmatched, substitute_of_none here, List.map_map]
        exact congrArg (node kind · ty) (List.map_congr_left ih)

/-- Two slots change places and a count takes the place of one of them, in one pass. The later pair
for the same slot never counts, and the type that a replacement brings along stays. -/
theorem swap_then_count_at_once :
    let x (label : Option String) : Expr := .slot ⟨⟨1, 0⟩, ⟨1, 0⟩, label⟩
    let y : Expr := .slot ⟨⟨1, 0⟩, ⟨1, 1⟩, some "t.y"⟩
    let rows : Expr := countStar.setType .bigInt
    let first : Substitution := ⟨[(x none, y), (y, .not (x (some "t.x"))), (x none, .literal .null)]⟩
    let second : Substitution := ⟨[(x none, rows), (countStar, y), (x none, y)]⟩
    let e : Expr := .comparison .lt (.arithmetic .add (x (some "u.x")) y) countStar
    second.LeafPatterns ∧
      e.substitute ((first.rewritten second).combine second) =
        .comparison .lt (.arithmetic .add y (.not rows)) y := by
  intro x y rows first second e
  have leaves : second.LeafPatterns := by
    simp [Substitution.LeafPatterns, second, x, slot, countStar, untyped]
  refine ⟨leaves, ?_⟩
  rw [← substitute_substitute first second leaves e]
  rfl

end Expr
end ScalarSql

import ScalarSql.Proofs.Tree.Composition
import ScalarSql.Proofs.Tree.Outermost

/-!
What a substitution leaves to replace. A tree in which nothing is matched stays as it is. If only
leaves are replaced, and no replacement holds a pattern, then nothing in the new tree is matched: a
node that keeps its place was no match before, and new children do not make it one. So no pattern is
left, and a second pass changes nothing (`no_pattern_survives`). A pattern with children can come
about through what is put below it.
-/
namespace ScalarSql
namespace Expr

variable {m : Substitution} {e : Expr}

/-- No node of the tree is the same expression as a pattern. -/
def FreeOf (m : Substitution) (e : Expr) : Prop := ∀ n ∈ e.nodes, ¬ m.Matches n

instance (m : Substitution) (e : Expr) : Decidable (e.FreeOf m) :=
  inferInstanceAs (Decidable (∀ n ∈ e.nodes, ¬ m.Matches n))

theorem freeOf_node {kind : Kind} {children : List Expr} {ty : DataType} :
    (node kind children ty).FreeOf m ↔
      ¬ m.Matches (node kind children ty) ∧ ∀ c ∈ children, c.FreeOf m :=
  forall_nodes_node

theorem substitute_eq_self (free : e.FreeOf m) : e.substitute m = e := by
  induction e using children_induction with
  | node kind children ty ih =>
    obtain ⟨root, below⟩ := freeOf_node.1 free
    have same : ∀ c ∈ children, c.substitute m = id c :=
      fun c member => ih c member (below c member)
    rw [substitute_of_none (Substitution.not_matches_iff.1 root), List.map_congr_left same,
      List.map_id]

/-- Where only leaves are replaced, a node of the new tree that is matched lies in a replacement. -/
theorem freeOf_substitute (leaves : m.LeafPatterns) (fresh : ∀ r ∈ m.replacements, r.FreeOf m)
    (e : Expr) : (e.substitute m).FreeOf m := by
  intro n inside
  rcases mem_nodes_rewrite_cases inside with ⟨t, -, missing, rfl⟩ | ⟨t, -, r, found, deeper⟩
  · obtain ⟨kind, children, ty⟩ := t
    rw [rewrite_of_none missing]
    exact Substitution.not_matches_iff.2 (get?_map_children_eq_none leaves _ missing)
  · exact fresh r (Substitution.mem_replacements found) n deeper

/-- If the patterns are leaves and no replacement holds one of them, then no node of the new tree is
the same expression as a pattern, and substituting again gives the same tree, types and labels
included. So it does with any patterns where no node is one of them. -/
theorem no_pattern_survives (m : Substitution) (e : Expr) :
    (m.LeafPatterns → (∀ r ∈ m.replacements, r.FreeOf m) →
      (e.substitute m).FreeOf m ∧ (e.substitute m).substitute m = e.substitute m) ∧
    (e.FreeOf m → e.substitute m = e) := by
  refine ⟨?_, substitute_eq_self⟩
  intro leaves fresh
  have free := freeOf_substitute leaves fresh e
  exact ⟨free, substitute_eq_self free⟩

/-- A column gives way to an expression over another table, and a call without arguments to a cast.
One pattern is put twice, and both occur under labels and types of their own. -/
theorem columns_of_view_expanded_once :
    let x (label : Option String) : Expr := .slot ⟨⟨1, 0⟩, ⟨1, 0⟩, label⟩
    let y : Expr := .slot ⟨⟨2, 0⟩, ⟨2, 0⟩, some "t.y"⟩
    let today : Expr := untyped (.call "today") []
    let next : Expr := (Expr.arithmetic .add y (.literal (.int 1))).setType .double
    let m : Substitution := ⟨[(x none, next), (today.setType .date, .cast y .date),
      (x (some "v.x"), .literal .null)]⟩
    let e : Expr := .and (.comparison .lt ((x (some "w.x")).setType .int) today)
      ((Expr.isNull (x none)).setType .boolean)
    let new : Expr := .and (.comparison .lt next (.cast y .date))
      ((Expr.isNull next).setType .boolean)
    m.LeafPatterns ∧ (∀ r ∈ m.replacements, r.FreeOf m) ∧ e.substitute m = new ∧
      new.FreeOf m ∧ new.substitute m = new := by
  intro x y today next m e new
  have leaves : m.LeafPatterns := by
    simp [Substitution.LeafPatterns, m, x, today, slot, untyped, setType]
  have fresh : ∀ r ∈ m.replacements, r.FreeOf m := by decide
  obtain ⟨free, again⟩ := (no_pattern_survives m e).1 leaves fresh
  exact ⟨leaves, fresh, rfl, free, again⟩

/-- The second pattern comes about when the first is replaced below it. -/
example :
    let x : Expr := .slot ⟨⟨1, 0⟩, ⟨1, 0⟩, none⟩
    let y : Expr := .slot ⟨⟨1, 0⟩, ⟨1, 1⟩, none⟩
    let m : Substitution := ⟨[(x, y), (.isNull y, .literal (.boolean false))]⟩
    (∀ r ∈ m.replacements, r.FreeOf m) ∧ ¬ ((Expr.isNull x).substitute m).FreeOf m := by
  decide

end Expr
end ScalarSql

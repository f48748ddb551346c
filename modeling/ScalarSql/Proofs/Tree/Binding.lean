import ScalarSql.Proofs.Tree.Outermost
import ScalarSql.Proofs.Tree.Searches

/-!
Binding after a substitution. A reference of the new tree has kept its place or comes with a
replacement (`mem_refs_substitute`), so the new tree mentions no other ids than the old one and the
replacements do. It is bound by what binds them all, and by what binds the replacements alone if
they take the place of every reference (`bound_through_substitution`).
-/
namespace ScalarSql
namespace Expr

variable {m : Substitution} {e : Expr} {S T : List TupleId}

/-- A slot reference is bound by its own tuple, any other node through its children. -/
theorem boundBy_node_iff {kind : Kind} {children : List Expr} {ty : DataType} :
    (node kind children ty).boundBy T = true ↔
      (∀ ref, kind = .slot ref → ref.tuple ∈ T) ∧
        (kind.shape ≠ .slot → ∀ c ∈ children, c.boundBy T = true) := by
  rw [boundBy_node]
  cases kind <;> simp [Kind.boundBy, Kind.shape]

theorem mem_refs_substitute {ref : SlotRef} (member : ref ∈ (e.substitute m).refs) :
    ref ∈ e.refs ∨ ∃ r ∈ m.replacements, ref ∈ r.refs := by
  obtain ⟨n, inside, reference⟩ := mem_refs.1 member
  rcases mem_nodes_rewrite_cases inside with ⟨t, before, missing, rfl⟩ | ⟨t, -, r, found, deeper⟩
  · obtain ⟨kind, children, ty⟩ := t
    rw [rewrite_of_none missing] at reference
    exact Or.inl (mem_refs.2 ⟨_, before, reference⟩)
  · exact Or.inr ⟨r, Substitution.mem_replacements found, mem_refs.2 ⟨n, deeper, reference⟩⟩

/-- What some reference of the new tree has, some reference of the old tree or of a replacement
has. -/
theorem exists_ref_of_substitute {P : SlotRef → Prop}
    (found : ∃ ref ∈ (e.substitute m).refs, P ref) :
    (∃ ref ∈ e.refs, P ref) ∨ ∃ r ∈ m.replacements, ∃ ref ∈ r.refs, P ref := by
  obtain ⟨ref, member, holds⟩ := found
  rcases mem_refs_substitute member with kept | ⟨r, listed, inside⟩
  · exact Or.inl ⟨ref, kept, holds⟩
  · exact Or.inr ⟨r, listed, ref, inside, holds⟩

theorem boundBy_substitute (bound : ∀ r ∈ m.replacements, r.boundBy T = true) (e : Expr) :
    e.boundBy S = true → (e.substitute m).boundBy (S ++ T) = true := by
  refine substitute_induction ?_ ?_ e
  · intro e r found _
    have alone := bound r (Substitution.mem_replacements found)
    exact boundBy_mono (List.subset_append_right S T) alone
  · intro kind children ty _ below before
    obtain ⟨own, inner⟩ := boundBy_node_iff.1 before
    refine boundBy_node_iff.2 ⟨fun ref same => List.mem_append_left T (own ref same), ?_⟩
    intro other
    exact List.forall_mem_map.2 fun c member => below c member (inner other c member)

/-- Where every reference gives way to a replacement, only the replacements have to be bound. -/
theorem boundBy_substitute_of_matches (bound : ∀ r ∈ m.replacements, r.boundBy T = true)
    (e : Expr) : (∀ n ∈ e.nodes, n.shape = .slot → m.Matches n) →
      (e.substitute m).boundBy T = true := by
  refine substitute_induction ?_ ?_ e
  · intro e r found _
    exact bound r (Substitution.mem_replacements found)
  · intro kind children ty missing below covered
    obtain ⟨root, inner⟩ := forall_nodes_node.1 covered
    have other : kind.shape ≠ .slot :=
      fun slot => Substitution.not_matches_iff.2 missing (root slot)
    refine boundBy_node_iff.2 ⟨fun ref same => absurd (congrArg Kind.shape same) other, fun _ => ?_⟩
    exact List.forall_mem_map.2 fun c member => below c member (inner c member)

/-- Let the tuples of `T` bind every replacement. Then those of `S` and `T` together bind what a
substitution makes of a tree that `S` binds, and `T` alone binds it if every slot reference of the
tree is the same expression as some pattern. In any case the new tree mentions only ids that the old
one or a replacement mentions. -/
theorem bound_through_substitution (m : Substitution) (e : Expr) :
    (∀ S T : List TupleId, (∀ r ∈ m.replacements, r.boundBy T = true) →
      (e.boundBy S = true → (e.substitute m).boundBy (S ++ T) = true) ∧
      ((∀ n ∈ e.nodes, n.shape = .slot → m.Matches n) → (e.substitute m).boundBy T = true)) ∧
    (∀ id ∈ ((e.substitute m).references {}).tuples, id ∈ (e.references {}).tuples ∨
      ∃ r ∈ m.replacements, id ∈ (r.references {}).tuples) ∧
    ∀ id ∈ ((e.substitute m).references {}).slots, id ∈ (e.references {}).slots ∨
      ∃ r ∈ m.replacements, id ∈ (r.references {}).slots := by
  simp only [mem_tuples_references, mem_slots_references]
  refine ⟨?_, fun id => exists_ref_of_substitute, fun id => exists_ref_of_substitute⟩
  intro S T bound
  exact ⟨boundBy_substitute bound e, boundBy_substitute_of_matches bound e⟩

/-- A view column stands for a sum over two tables, and a comparison of another one gives way as a
whole. A predicate over these columns moves to the tables; one that also reads a table beside the
view needs that table still. -/
theorem predicate_moved_through_view :
    let x (label : Option String) : Expr := .slot ⟨⟨1, 0⟩, ⟨1, 0⟩, label⟩
    let y : Expr := .slot ⟨⟨1, 0⟩, ⟨1, 1⟩, none⟩
    let beside : Expr := .slot ⟨⟨1, 1⟩, ⟨1, 2⟩, none⟩
    let a : Expr := .slot ⟨⟨2, 0⟩, ⟨2, 0⟩, some "t.a"⟩
    let b : Expr := .slot ⟨⟨2, 1⟩, ⟨2, 1⟩, some "u.b"⟩
    let paid : Expr := .comparison .eq y (.literal (.int 1))
    let m : Substitution := ⟨[(x none, .arithmetic .add a b), (paid, .isNull a)]⟩
    let tables : List TupleId := [⟨2, 0⟩, ⟨2, 1⟩]
    let moved : Expr := .comparison .lt (x (some "v.x")) (.literal (.int 5))
    let joined : Expr := .and (.comparison .lt (x none) beside) paid
    (∀ r ∈ m.replacements, r.boundBy tables = true) ∧
      (∀ n ∈ moved.nodes, n.shape = .slot → m.Matches n) ∧
      (moved.substitute m).boundBy tables = true ∧
      (joined.substitute m).boundBy tables = false ∧
      (joined.substitute m).boundBy ([⟨1, 0⟩, ⟨1, 1⟩] ++ tables) = true ∧
      ∀ id ∈ ((joined.substitute m).references {}).slots, id ∈ (joined.references {}).slots ∨
        ∃ r ∈ m.replacements, id ∈ (r.references {}).slots := by
  intro x y beside a b paid m tables moved joined
  have bound : ∀ r ∈ m.replacements, r.boundBy tables = true := by decide
  have covered : ∀ n ∈ moved.nodes, n.shape = .slot → m.Matches n := by decide
  obtain ⟨-, alone⟩ := (bound_through_substitution m moved).1 [] tables bound
  obtain ⟨binds, -, slots⟩ := bound_through_substitution m joined
  obtain ⟨together, -⟩ := binds [⟨1, 0⟩, ⟨1, 1⟩] tables bound
  exact ⟨bound, covered, alone covered, by decide, together (by decide), slots⟩

end Expr
end ScalarSql

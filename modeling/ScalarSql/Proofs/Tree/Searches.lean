import ScalarSql.Proofs.Tree.References

/-!
The searches of a tree are all questions about one list, that of its nodes from the root on.
Collecting filters this list, and `contains` asks whether anything is found; the ids referenced are
those of the slot references in the list, and binding compares them (`searches_agree_with_nodes`). A
search through several trees is the same question about their lists, one behind the other.
-/
namespace ScalarSql
namespace Expr

mutual

/-- The nodes found before, then those of a shape, each put at the end when it is met. -/
def collectInto (shape : Shape) (found : List Expr) : Expr → List Expr
  | node kind children ty =>
    collectAllInto shape
      (if kind.shape = shape then found ++ [node kind children ty] else found) children

def collectAllInto (shape : Shape) (found : List Expr) : List Expr → List Expr
  | [] => found
  | e :: es => collectAllInto shape (e.collectInto shape found) es

end

theorem collectAllInto_eq_append_of_each {shape : Shape} {es : List Expr}
    (each : ∀ e ∈ es, ∀ found, e.collectInto shape found = found ++ e.collect shape)
    (found : List Expr) : collectAllInto shape found es = found ++ collectAll shape es := by
  rw [collectAll_eq_flatMap]
  induction es generalizing found with
  | nil => exact (List.append_nil found).symm
  | cons e es ih =>
    obtain ⟨first, others⟩ := List.forall_mem_cons.1 each
    rw [collectAllInto, first, ih others, List.flatMap_cons, List.append_assoc]

/-- What was found before stays in front. -/
theorem collectInto_eq_append (shape : Shape) (found : List Expr) (e : Expr) :
    e.collectInto shape found = found ++ e.collect shape := by
  induction e using children_induction generalizing found with
  | node kind children ty ih =>
    rw [collectInto, collectAllInto_eq_append_of_each ih, collect_node]
    by_cases root : kind.shape = shape <;> simp [root]

theorem collectAllInto_eq_append (shape : Shape) (found es : List Expr) :
    collectAllInto shape found es = found ++ collectAll shape es :=
  collectAllInto_eq_append_of_each (fun e _ before => collectInto_eq_append shape before e) found

theorem collectAll_eq_filter (shape : Shape) (es : List Expr) :
    collectAll shape es = (es.flatMap nodes).filter (·.shape = shape) := by
  rw [collectAll_eq_flatMap, List.filter_flatMap]
  exact List.flatMap_congr fun e _ => collect_eq_filter shape e

theorem contains_iff_collect_ne_nil {shape : Shape} {e : Expr} :
    e.contains shape = true ↔ e.collect shape ≠ [] := by
  simp [contains_iff, collect_eq_filter]

theorem anyContains_iff {shape : Shape} {es : List Expr} :
    anyContains shape es = true ↔ ∃ n ∈ es.flatMap nodes, n.shape = shape := by
  simp only [anyContains_eq_any, List.any_eq_true, contains_iff, List.mem_flatMap]
  constructor
  · rintro ⟨e, member, n, inside, same⟩
    exact ⟨n, ⟨e, member, inside⟩, same⟩
  · rintro ⟨n, ⟨e, member, inside⟩, same⟩
    exact ⟨e, member, n, inside, same⟩

theorem isConstant_eq_not_contains (e : Expr) : e.isConstant = !e.contains .slot := by
  induction e using children_induction with
  | node kind children ty ih =>
    have below : children.all isConstant = !children.any (contains .slot) := by
      rw [List.not_any_eq_all_not]
      exact all_eq_of_forall₂ (List.forall₂_same.2 ih)
    rw [isConstant, contains, allConstant_eq_all, anyContains_eq_any, below, Bool.not_or]
    rfl

theorem boundBy_mono {S T : List TupleId} (sub : S ⊆ T) {e : Expr}
    (bound : e.boundBy S = true) : e.boundBy T = true := by
  induction e using children_induction with
  | node kind children ty ih =>
    rw [boundBy_node] at bound ⊢
    cases kind with
    | slot ref =>
      simp only [Kind.boundBy, decide_eq_true_eq] at bound ⊢
      exact sub bound
    | _ =>
      simp only [Kind.boundBy, List.all_eq_true] at bound ⊢
      exact fun c member => ih c member (bound c member)

section FitsArity
variable {e : Expr} (fits : e.FitsArity)
include fits

theorem boundBy_iff_references {tuples : List TupleId} :
    e.boundBy tuples = true ↔ ∀ id ∈ (e.references {}).tuples, id ∈ tuples := by
  rw [boundBy_iff fits, eachRef_iff]
  simp only [mem_tuples_references]
  constructor
  · rintro each _ ⟨ref, member, rfl⟩
    exact each ref member
  · exact fun each ref member => each ref.tuple ⟨ref, member, rfl⟩

theorem boundBy_nil_iff : e.boundBy [] = true ↔ e.contains .slot = false := by
  rw [boundBy_iff fits, contains_eq_false_iff]
  constructor
  · intro each n inside shape
    obtain ⟨kind, children, ty⟩ := n
    cases kind with
    | slot ref => exact List.not_mem_nil (each _ inside ref rfl)
    | _ => cases shape
  · intro none_shape n inside ref same
    exact absurd (congrArg Kind.shape same) (none_shape n inside)

end FitsArity

theorem allBoundBy_iff {es : List Expr} (fits : ∀ e ∈ es, e.FitsArity) {tuples : List TupleId} :
    allBoundBy tuples es = true ↔
      ∀ n ∈ es.flatMap nodes, ∀ ref, n.kind = .slot ref → ref.tuple ∈ tuples := by
  rw [allBoundBy_eq_all, List.all_eq_true, List.forall_mem_flatMap]
  exact forall₂_congr fun e member => boundBy_iff (fits e member)

/-- What each search answers, by the list of the nodes of the tree. -/
structure SearchesNodes (e : Expr) : Prop where
  collected (shape : Shape) : e.collect shape = e.nodes.filter (·.shape = shape)
  appended (shape : Shape) (found : List Expr) :
    e.collectInto shape found = found ++ e.collect shape
  contained (shape : Shape) : e.contains shape = true ↔ e.collect shape ≠ []
  referenced (start : References) : ∃ tuples slots,
    e.references start = ⟨start.tuples ++ tuples, start.slots ++ slots⟩ ∧
      FirstOccurrences start.tuples ((e.nodes.filterMap (·.kind.ref?)).map (·.tuple)) tuples ∧
      FirstOccurrences start.slots ((e.nodes.filterMap (·.kind.ref?)).map (·.slot)) slots
  bound (tuples : List TupleId) :
    e.boundBy tuples = true ↔ ∀ id ∈ (e.references {}).tuples, id ∈ tuples
  boundByOwn : e.boundBy (e.references {}).tuples = true
  monotone (S T : List TupleId) : S ⊆ T → e.boundBy S = true → e.boundBy T = true
  constant : (e.isConstant = true ↔ e.boundBy [] = true) ∧
    (e.isConstant = true ↔ e.contains .slot = false)

/-- What each search through a list of trees answers, by the lists of their nodes one behind the
other. -/
structure SearchesAllNodes (es : List Expr) : Prop where
  collected (shape : Shape) : collectAll shape es = (es.flatMap nodes).filter (·.shape = shape)
  appended (shape : Shape) (found : List Expr) :
    collectAllInto shape found es = found ++ collectAll shape es
  contained (shape : Shape) :
    anyContains shape es = true ↔ ∃ n ∈ es.flatMap nodes, n.shape = shape
  bound (tuples : List TupleId) : allBoundBy tuples es = true ↔
    ∀ n ∈ es.flatMap nodes, ∀ ref, n.kind = .slot ref → ref.tuple ∈ tuples

/-- All searches of trees from the constructors agree with the list of their nodes. -/
theorem searches_agree_with_nodes :
    (∀ e : Expr, e.Built → e.SearchesNodes) ∧
      ∀ es : List Expr, (∀ e ∈ es, e.Built) → SearchesAllNodes es := by
  constructor
  · intro e built
    have fits := built_fitsArity built
    have constant : e.isConstant = true ↔ e.contains .slot = false := by
      rw [isConstant_eq_not_contains, Bool.not_eq_true']
    exact {
      collected := fun shape => collect_eq_filter shape e
      appended := fun shape found => collectInto_eq_append shape found e
      contained := fun shape => contains_iff_collect_ne_nil
      referenced := references_eq_append e
      bound := fun tuples => boundBy_iff_references fits
      boundByOwn := (boundBy_iff_references fits).2 fun id member => member
      monotone := fun S T sub => boundBy_mono sub
      constant := ⟨constant.trans (boundBy_nil_iff fits).symm, constant⟩ }
  · intro es built
    exact {
      collected := fun shape => collectAll_eq_filter shape es
      appended := fun shape found => collectAllInto_eq_append shape found es
      contained := fun shape => anyContains_iff
      bound := fun tuples => allBoundBy_iff fun e member => built_fitsArity (built e member) }

/-- Two references to one tuple and one to another, where the search starts from ids of its own, one
of them twice. -/
theorem references_behind_known_ids :
    let x (label : Option String) : Expr := .slot ⟨⟨1, 0⟩, ⟨1, 2⟩, label⟩
    let y : Expr := .slot ⟨⟨2, 0⟩, ⟨2, 3⟩, none⟩
    let e : Expr := .and (.comparison .lt (x (some "t.x")) y) (.isNull ((x none).setType .date))
    let start : References := ⟨[⟨2, 0⟩, ⟨2, 0⟩, ⟨2, 1⟩], [⟨1, 0⟩]⟩
    e.Built ∧ e.references start = ⟨start.tuples ++ [⟨1, 0⟩], start.slots ++ [⟨1, 2⟩, ⟨2, 3⟩]⟩ ∧
      e.SearchesNodes ∧ SearchesAllNodes [e, countStar] ∧
      ∀ tuples, e.boundBy tuples = true ↔ ⟨1, 0⟩ ∈ tuples ∧ ⟨2, 0⟩ ∈ tuples := by
  intro x y e start
  have built : e.Built := .and (.comparison _ (.slot _) (.slot _)) (.isNull (.retyped _ (.slot _)))
  have searches := searches_agree_with_nodes.1 e built
  have all := searches_agree_with_nodes.2 [e, countStar] (by simp [built, Built.countStar])
  refine ⟨built, by decide, searches, all, fun tuples => ?_⟩
  have own : (e.references {}).tuples = [⟨1, 0⟩, ⟨2, 0⟩] := by decide
  rw [searches.bound, own]
  simp

end Expr
end ScalarSql

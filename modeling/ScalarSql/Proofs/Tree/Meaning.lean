import ScalarSql.Proofs.Tree.Rewriting

/-!
Rewriting and meaning. An interpretation says what a node means, given its kind and what its
children mean; it may not look at labels, and it never sees a type. If each pattern of a map means
what its replacement means, then rewriting changes the meaning of no tree. If the patterns are slot
references, then rewriting is a simultaneous change of what the references mean (`Redirects`).
-/
namespace ScalarSql

universe u

/-- A value for each node from its kind and the values of its children. -/
structure Interpretation (V : Type u) where
  node : Kind → List V → V
  labels_ignored : ∀ k l : Kind, k.unlabeled = l.unlabeled → node k = node l

namespace Interpretation

variable {V : Type u}

mutual

def value (J : Interpretation V) : Expr → V
  | .node kind children _ => J.node kind (J.values children)

def values (J : Interpretation V) : List Expr → List V
  | [] => []
  | e :: es => J.value e :: J.values es

end

theorem values_eq_map (J : Interpretation V) (es : List Expr) : J.values es = es.map J.value := by
  induction es with
  | nil => rfl
  | cons e es ih => rw [values, List.map_cons, ih]

theorem value_node (J : Interpretation V) (kind : Kind) (children : List Expr) (ty : DataType) :
    J.value (.node kind children ty) = J.node kind (children.map J.value) := by
  rw [value, values_eq_map]

/-- The same expression has the same value, whatever its types and labels. -/
theorem value_congr (J : Interpretation V) {a b : Expr} (same : (a == b) = true) :
    J.value a = J.value b := by
  refine Expr.beq_induction (fun k l cs ds s t kinds _ below => ?_) same
  have children : cs.map J.value = ds.map J.value := map_eq_map_iff_forall₂.2 below
  rw [value_node, value_node, children, J.labels_ignored k l kinds]

/-- Values pass from replacements to the rewritten tree. -/
theorem value_substitute_of_pairs (J : Interpretation V) {m : Substitution}
    (pairs : ∀ p ∈ m.pairs, J.value p.1 = J.value p.2) (e : Expr) :
    J.value (e.substitute m) = J.value e := by
  refine Expr.substitute_induction ?_ ?_ e
  · intro e r found
    obtain ⟨p, member, same, rfl⟩ := Substitution.exists_pair_of_get? found
    rw [← pairs p member, J.value_congr same]
  · intro kind children ty _ ih
    have below : (children.map (Expr.substitute m)).map J.value = children.map J.value := by
      rw [List.map_map]
      exact List.map_congr_left ih
    rw [value_node, value_node, below]

/-- `K` is `J` but for the slot references that are patterns of `m`: such a reference has the value
that `J` gives to the replacement it was first put with. -/
structure Redirects (m : Substitution) (J K : Interpretation V) : Prop where
  replaced : ∀ ref before pattern r after, m.pairs = before ++ (pattern, r) :: after →
    (pattern == Expr.slot ref) = true → (∀ p ∈ before, (p.1 == Expr.slot ref) = false) →
    K.node (.slot ref) [] = J.value r
  kept : ∀ kind values,
    (∀ ref, kind = .slot ref → values = [] → ∀ p ∈ m.pairs, (p.1 == Expr.slot ref) = false) →
    K.node kind values = J.node kind values

/-- The value of a node after `m`, where `m` may replace it if it is a slot reference. -/
def redirectedNode (J : Interpretation V) (m : Substitution) (kind : Kind) (values : List V) : V :=
  match kind, values with
  | .slot ref, [] => ((m.get? (.slot ref)).map J.value).getD (J.node (.slot ref) [])
  | _, _ => J.node kind values

def redirect (J : Interpretation V) (m : Substitution) : Interpretation V where
  node := J.redirectedNode m
  labels_ignored := by
    intro k l same
    rcases Kind.unlabeled_eq_cases same with rfl | ⟨r, s, rfl, rfl, -, -⟩
    · rfl
    · have replacement : m.get? (.slot r) = m.get? (.slot s) :=
        m.get?_congr (Expr.node_beq_iff_forall₂.2 ⟨same, .nil⟩)
      funext values
      cases values with
      | nil => simp only [redirectedNode, replacement, J.labels_ignored _ _ same]
      | cons v vs => simp only [redirectedNode, J.labels_ignored _ _ same]

/-- Each map redirects each interpretation. -/
theorem redirects_redirect (J : Interpretation V) (m : Substitution) :
    Redirects m J (J.redirect m) where
  replaced := by
    intro ref before pattern r after split same first
    have found : m.get? (.slot ref) = some r :=
      Substitution.get?_eq_some_iff.2 ⟨before, pattern, after, split, same, first⟩
    show ((m.get? (.slot ref)).map J.value).getD _ = _
    rw [found]
    rfl
  kept := by
    intro kind values unmatched
    show J.redirectedNode m kind values = _
    unfold redirectedNode
    split
    next ref =>
      have missing : m.get? (.slot ref) = none :=
        Substitution.get?_eq_none_iff.2 (unmatched ref rfl rfl)
      rw [missing]
      rfl
    next => rfl

theorem value_substitute_of_slots {J K : Interpretation V} {m : Substitution}
    (slots : ∀ p ∈ m.pairs, ∃ ref ty, p.1 = .node (.slot ref) [] ty)
    (redirects : Redirects m J K) (e : Expr) :
    J.value (e.substitute m) = K.value e := by
  refine Expr.substitute_induction ?_ ?_ e
  · rintro ⟨kind, children, ty⟩ r found
    obtain ⟨p, member, same, -⟩ := Substitution.exists_pair_of_get? found
    obtain ⟨ref, ty', leaf⟩ := slots p member
    rw [leaf] at same
    obtain ⟨kinds, below⟩ := Expr.node_beq_iff_forall₂.1 same
    cases below
    obtain ⟨ref', rfl⟩ := Kind.exists_slot_of_unlabeled kinds
    have first : m.get? (.slot ref') = some r := (m.get?_untyped _ [] ty).symm.trans found
    obtain ⟨before, pattern, after, split, same, unmatched⟩ :=
      Substitution.get?_eq_some_iff.1 first
    have value := redirects.replaced ref' before pattern r after split same unmatched
    rw [value_node, List.map_nil, value]
  · intro kind children ty missing ih
    have below : (children.map (Expr.substitute m)).map J.value = children.map K.value := by
      rw [List.map_map]
      exact List.map_congr_left ih
    have node : K.node kind (children.map K.value) = J.node kind (children.map K.value) := by
      apply redirects.kept
      rintro ref rfl leaf
      rw [List.map_eq_nil_iff.1 leaf, m.get?_untyped] at missing
      exact Substitution.get?_eq_none_iff.1 missing
    rw [value_node, value_node, below, node]

/-- Rewriting keeps the value of each tree if each pattern has the value of its replacement, and
copying with the map does the same. Where only slot references are replaced, all at once, the new
tree has the value that the old one has under the redirected interpretation. -/
theorem substitute_preserves_value (J : Interpretation V) (m : Substitution) (e : Expr) :
    ((∀ p ∈ m.pairs, J.value p.1 = J.value p.2) →
      J.value (e.substitute m) = J.value e ∧ J.value (e.copyWith (some m)) = J.value e) ∧
    ((∀ p ∈ m.pairs, ∃ ref ty, p.1 = .node (.slot ref) [] ty) →
      (∃ K, Redirects m J K) ∧
        ∀ K, Redirects m J K → J.value (e.substitute m) = K.value e) := by
  constructor
  · intro pairs
    have kept := J.value_substitute_of_pairs pairs e
    refine ⟨kept, ?_⟩
    rw [Expr.copyWith_some]
    exact kept
  · intro slots
    refine ⟨⟨J.redirect m, J.redirects_redirect m⟩, ?_⟩
    intro K redirects
    exact value_substitute_of_slots slots redirects e

/-- A slot has its index for a value; sums and differences are those of integers. -/
def ofIndices : Interpretation Int where
  node
    | .slot ref, _ => ref.slot.index.toNat
    | .arithmetic .add, [x, y] => x + y
    | .arithmetic .subtract, [x, y] => x - y
    | _, _ => 0
  labels_ignored := by
    intro k l same
    rcases Kind.unlabeled_eq_cases same with rfl | ⟨r, s, rfl, rfl, -, slots⟩
    · rfl
    · simp only [slots]

/-- Exchanging the operands of a sum keeps its value; exchanging two slots, where a later pair for
one of them does not count, negates their difference. -/
theorem exchange_keeps_sum_and_negates_difference :
    let x (label : Option String) : Expr := .slot ⟨⟨1, 0⟩, ⟨1, 3⟩, label⟩
    let y : Expr := .slot ⟨⟨1, 0⟩, ⟨1, 5⟩, none⟩
    let operands : Substitution := ⟨[(.arithmetic .add (x none) y, .arithmetic .add y (x none))]⟩
    let slots : Substitution := ⟨[(x none, y), (y, x none), (x (some "t.x"), x none)]⟩
    let sum : Expr := .arithmetic .subtract (.arithmetic .add (x (some "t.x")) y) y
    let difference : Expr := .arithmetic .subtract (x (some "t.x")) y
    (∀ p ∈ operands.pairs, ofIndices.value p.1 = ofIndices.value p.2) ∧
      ofIndices.value (sum.substitute operands) = ofIndices.value sum ∧
      (∀ p ∈ slots.pairs, ∃ ref ty, p.1 = .node (.slot ref) [] ty) ∧
      ofIndices.value difference = -2 ∧
      ∃ K, Redirects slots ofIndices K ∧ K.value difference = 2 := by
  intro x y operands slots sum difference
  have alike : ∀ p ∈ operands.pairs, ofIndices.value p.1 = ofIndices.value p.2 := by decide
  have references : ∀ p ∈ slots.pairs, ∃ ref ty, p.1 = .node (.slot ref) [] ty := by
    simp [slots, x, y, Expr.slot, Expr.untyped]
  have kept := (substitute_preserves_value ofIndices operands sum).1 alike
  have redirected := (substitute_preserves_value ofIndices slots difference).2 references
  obtain ⟨K, redirects⟩ := redirected.1
  refine ⟨alike, kept.1, references, by decide, K, redirects, ?_⟩
  rw [← redirected.2 K redirects]
  decide

end Interpretation
end ScalarSql

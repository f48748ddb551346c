import ScalarSql.Proofs.Key.Bytes

/-!
Keys of trees are faithful: equal trees have equal keys, and a key tells its tree up to `==`, also
where other bytes follow it. So no key begins another, and a list of trees can be told from its
keys written one after the other. All this is for trees whose counts fit the bytes kept for them.
-/
namespace ScalarSql
namespace Expr

open Key

/-- Every number of children and every text can be counted in eight bytes. -/
def Encodable (e : Expr) : Prop :=
  ∀ n ∈ e.nodes, n.children.length < 2 ^ 64 ∧ n.kind.Encodable

theorem encodable_node {kind : Kind} {children : List Expr} {ty : DataType} :
    (node kind children ty).Encodable ↔
      (children.length < 2 ^ 64 ∧ kind.Encodable) ∧ ∀ c ∈ children, c.Encodable :=
  forall_nodes_node

theorem key_ne_nil (e : Expr) : e.key ≠ [] := by
  obtain ⟨kind, children, ty⟩ := e
  rw [key_node, Kind.key_eq_tag_append]
  simp [tag, bytes]

theorem flatMap_key_congr {as bs : List Expr}
    (keys : List.Forall₂ (fun a b => a.key = b.key) as bs) :
    as.flatMap key = bs.flatMap key := by
  rw [List.flatMap_def, List.flatMap_def, map_eq_map_iff_forall₂.2 keys]

/-- Types and labels leave no trace in a key. -/
theorem key_congr {a b : Expr} (same : (a == b) = true) : a.key = b.key := by
  refine beq_induction (fun k l cs ds s t kinds _ below => ?_) same
  rw [key_node, key_node, Kind.key_congr kinds, below.length_eq, flatMap_key_congr below]

/-- Where as many keys are read on both sides, they are read off one by one. -/
theorem flatMap_key_append_inj {as bs : List Expr} {r s : List UInt8}
    (each : ∀ a ∈ as, ∀ b ∈ bs, ∀ {r s : List UInt8}, a.key ++ r = b.key ++ s →
      (a == b) = true ∧ r = s)
    (lengths : as.length = bs.length)
    (equal : as.flatMap key ++ r = bs.flatMap key ++ s) :
    List.Forall₂ (fun a b => (a == b) = true) as bs ∧ r = s := by
  induction as generalizing bs with
  | nil =>
    cases bs with
    | nil => exact ⟨.nil, equal⟩
    | cons b bs => simp at lengths
  | cons a as ih =>
    cases bs with
    | nil => simp at lengths
    | cons b bs =>
      rw [List.flatMap_cons, List.flatMap_cons, List.append_assoc, List.append_assoc] at equal
      obtain ⟨first, afterFirst⟩ := each a (by simp) b (by simp) equal
      have shorter : as.length = bs.length := by simpa using lengths
      obtain ⟨others, rests⟩ := ih
        (fun c left d right => each c (by simp [left]) d (by simp [right])) shorter afterFirst
      exact ⟨.cons first others, rests⟩

/-- A key is told from the bytes behind it. -/
theorem key_append_inj {a b : Expr} (fitsLeft : a.Encodable) (fitsRight : b.Encodable)
    {r s : List UInt8} (equal : a.key ++ r = b.key ++ s) : (a == b) = true ∧ r = s := by
  induction a using children_induction generalizing b r s with
  | node k cs ty ih =>
    obtain ⟨l, ds, ty'⟩ := b
    obtain ⟨⟨few, kindFits⟩, below⟩ := encodable_node.1 fitsLeft
    obtain ⟨⟨few', kindFits'⟩, below'⟩ := encodable_node.1 fitsRight
    simp only [key_node, List.append_assoc] at equal
    obtain ⟨kinds, afterKind⟩ := Kind.key_append_inj kindFits kindFits' equal
    obtain ⟨lengths, afterLength⟩ := length_append_inj few few' afterKind
    obtain ⟨children, rests⟩ := flatMap_key_append_inj
      (fun c left d right _ _ => ih c left (below c left) (below' d right)) lengths afterLength
    exact ⟨node_beq_iff_forall₂.2 ⟨kinds, children⟩, rests⟩

/-- No key is empty, so keys in a row also tell how many they are. -/
theorem forall₂_beq_of_flatMap_key_eq {as bs : List Expr} (fitsLeft : ∀ a ∈ as, a.Encodable)
    (fitsRight : ∀ b ∈ bs, b.Encodable) (equal : as.flatMap key = bs.flatMap key) :
    List.Forall₂ (fun a b => (a == b) = true) as bs := by
  induction as generalizing bs with
  | nil =>
    cases bs with
    | nil => exact .nil
    | cons b bs =>
      have empty := (List.append_eq_nil_iff.1 (equal.symm.trans List.flatMap_nil)).1
      exact absurd empty b.key_ne_nil
  | cons a as ih =>
    cases bs with
    | nil =>
      have empty := (List.append_eq_nil_iff.1 (equal.trans List.flatMap_nil)).1
      exact absurd empty a.key_ne_nil
    | cons b bs =>
      rw [List.flatMap_cons, List.flatMap_cons] at equal
      obtain ⟨first, afterFirst⟩ :=
        key_append_inj (fitsLeft a (by simp)) (fitsRight b (by simp)) equal
      refine .cons first (ih ?_ ?_ afterFirst)
      · intro c member
        exact fitsLeft c (by simp [member])
      · intro d member
        exact fitsRight d (by simp [member])

/-- Equality of trees is equality of keys; no key begins the key of another tree; and the keys of
two lists, written one after the other, agree exactly if the lists do, tree by tree. -/
theorem key_faithful_and_delimited (a b : Expr) (fitsLeft : a.Encodable)
    (fitsRight : b.Encodable) :
    ((a == b) = true ↔ a.key = b.key) ∧ (a.key <+: b.key ↔ (a == b) = true) ∧
    ∀ as bs : List Expr, (∀ c ∈ as, c.Encodable) → (∀ d ∈ bs, d.Encodable) →
      (as.flatMap key = bs.flatMap key ↔
        List.Forall₂ (fun c d => (c == d) = true) as bs) := by
  have prefixes : a.key <+: b.key → (a == b) = true := by
    rintro ⟨rest, equal⟩
    have padded : a.key ++ rest = b.key ++ [] := by rw [equal, List.append_nil]
    exact (key_append_inj fitsLeft fitsRight padded).1
  refine ⟨⟨key_congr, ?_⟩, ⟨prefixes, ?_⟩, ?_⟩
  · intro equal
    exact prefixes (equal ▸ List.prefix_rfl)
  · intro same
    exact key_congr same ▸ List.prefix_rfl
  · intro as bs fits fits'
    constructor
    · exact forall₂_beq_of_flatMap_key_eq fits fits'
    · intro related
      exact flatMap_key_congr (related.imp fun _ _ => key_congr)

/-- A comparison with a NaN under two labels, beside the same comparison of another slot. -/
theorem labels_and_types_leave_keys_alone :
    let compared (index : UInt32) (label : Option String) (ty : DataType) : Expr :=
      node (.comparison .lt) [node (.slot ⟨⟨1, 0⟩, ⟨1, index⟩, label⟩) [] ty,
        node (.literal (.double ⟨0x7ff8000000000001⟩)) [] .invalid] ty
    let a := compared 4 (some "price") .double
    let b := compared 4 none .invalid
    let other := compared 5 (some "price") .double
    (a.Encodable ∧ b.Encodable ∧ other.Encodable) ∧ a.key = b.key ∧ a.key ≠ other.key ∧
      ¬ a.key <+: other.key := by
  intro compared a b other
  have fits : ∀ index label ty, (compared index label ty).Encodable := by
    intro index label ty
    simp [compared, encodable_node, Kind.Encodable, Literal.Encodable]
  have same := key_faithful_and_delimited a b (fits _ _ _) (fits _ _ _)
  have apart := key_faithful_and_delimited a other (fits _ _ _) (fits _ _ _)
  have equal : (a == b) = true := by decide
  have different : (a == other) ≠ true := by decide
  exact ⟨⟨fits _ _ _, fits _ _ _, fits _ _ _⟩, same.1.1 equal,
    fun keys => different (apart.1.2 keys), fun begins => different (apart.2.1.1 begins)⟩

end Expr
end ScalarSql

import ScalarSql.Proofs.Tree.References

/-!
Turning comparisons around. `a < b` becomes `b > a` at any set of places of a tree at once, given by
their paths. What a tree contains, how deep and wide it is, and what it refers to stay as they are.
Nodes are found under other paths (`at?_flip`), and turning the same nodes around again gives the
tree back (`flip_flip`).
-/
namespace ScalarSql

/-- Some nodes of a tree, by their paths. -/
abbrev Choice := List Nat → Bool

/-- The chosen nodes of the child at a place. -/
def Choice.inside (chosen : Choice) (place : Nat) : Choice := fun path => chosen (place :: path)

namespace Expr

/-- The comparison that says the same with its operands exchanged. Any other node stays. -/
def converse : Expr → Expr
  | node (.comparison op) [left, right] ty => node (.comparison op.converse) [right, left] ty
  | e => e

mutual

/-- The tree with its comparisons at the chosen paths turned around. -/
def flip (chosen : Choice) : Expr → Expr
  | node kind children ty =>
    let flipped := node kind (flipAll chosen 0 children) ty
    if chosen [] then flipped.converse else flipped

/-- The children from the given place on. -/
def flipAll (chosen : Choice) (place : Nat) : List Expr → List Expr
  | [] => []
  | e :: es => e.flip (chosen.inside place) :: flipAll chosen (place + 1) es

end

/-- Where a child stands before its node is turned around, by where it stands afterwards. -/
def placeBefore : Expr → Nat → Nat
  | node (.comparison _) [_, _] _, 0 => 1
  | node (.comparison _) [_, _] _, 1 => 0
  | _, place => place

/-- Where a child stands before the chosen nodes are turned around. -/
def placeIn (chosen : Choice) (e : Expr) (place : Nat) : Nat :=
  if chosen [] then e.placeBefore place else place

/-- The path to a node of the tree, by the path to it in the flipped tree. -/
def pathBefore (chosen : Choice) : Expr → List Nat → List Nat
  | _, [] => []
  | e, place :: path =>
    let before := placeIn chosen e place
    match e.children[before]? with
    | some c => before :: c.pathBefore (chosen.inside before) path
    | none => before :: path

theorem flipAll_eq_mapIdx (chosen : Choice) (place : Nat) (es : List Expr) :
    flipAll chosen place es = es.mapIdx fun i e => e.flip (chosen.inside (place + i)) := by
  induction es generalizing place with
  | nil => rfl
  | cons e es ih =>
    rw [flipAll, ih, List.mapIdx_cons]
    simp [Nat.add_comm, Nat.add_left_comm]

theorem flip_node (chosen : Choice) (kind : Kind) (children : List Expr) (ty : DataType) :
    (node kind children ty).flip chosen =
      let flipped := node kind (children.mapIdx fun i c => c.flip (chosen.inside i)) ty
      if chosen [] then flipped.converse else flipped := by
  rw [flip, flipAll_eq_mapIdx]
  simp

/-- The root is chosen and can be turned around. -/
def Turns (chosen : Choice) (kind : Kind) (count : Nat) : Prop :=
  chosen [] = true ∧ kind.shape = .comparison ∧ count = 2

section Forms

variable {chosen : Choice} {kind : Kind} {children : List Expr} {ty : DataType}

theorem Turns.exists_operands (turns : Turns chosen kind children.length) :
    ∃ op left right, kind = .comparison op ∧ children = [left, right] := by
  obtain ⟨-, shape, two⟩ := turns
  obtain ⟨left, right, rfl⟩ := List.length_eq_two.1 two
  cases kind with
  | comparison op => exact ⟨op, left, right, rfl, rfl⟩
  | _ => cases shape

theorem flip_comparison (here : chosen [] = true) (op : Comparison) (left right : Expr) :
    (node (.comparison op) [left, right] ty).flip chosen =
      node (.comparison op.converse)
        [right.flip (chosen.inside 1), left.flip (chosen.inside 0)] ty := by
  simp [flip_node, here, converse]

theorem flip_of_not_turns (stays : ¬ Turns chosen kind children.length) :
    (node kind children ty).flip chosen =
      node kind (children.mapIdx fun i c => c.flip (chosen.inside i)) ty := by
  rw [flip_node]
  by_cases here : chosen [] = true
  · rw [← List.length_mapIdx (f := fun i c => c.flip (chosen.inside i))] at stays
    generalize children.mapIdx (fun i c => c.flip (chosen.inside i)) = flipped at stays
    simp only [here, if_true]
    unfold converse
    split
    next op left right ty' equal =>
      cases equal
      exact absurd ⟨here, rfl, rfl⟩ stays
    next => rfl
  · simp only [if_neg here]

theorem placeIn_of_not_turns (stays : ¬ Turns chosen kind children.length) (place : Nat) :
    placeIn chosen (node kind children ty) place = place := by
  unfold placeIn placeBefore
  split
  next here =>
    split
    next equal =>
      cases equal
      exact absurd ⟨here, rfl, rfl⟩ stays
    next equal =>
      cases equal
      exact absurd ⟨here, rfl, rfl⟩ stays
    next => rfl
  next => rfl

/-- The second tree is the first with some comparisons turned around. -/
def Flipped (e f : Expr) : Prop := ∃ chosen, f = e.flip chosen

/-- Induction over a tree and what it is when flipped. -/
@[elab_as_elim]
theorem flip_induction {motive : Expr → Expr → Prop}
    (same : ∀ kind cs ds ty, List.Forall₂ Flipped cs ds → List.Forall₂ motive cs ds →
      motive (.node kind cs ty) (.node kind ds ty))
    (turned : ∀ op left right left' right' ty, Flipped left left' → Flipped right right' →
      motive left left' → motive right right' →
      motive (.node (.comparison op) [left, right] ty)
        (.node (.comparison op.converse) [right', left'] ty))
    (chosen : Choice) (e : Expr) : motive e (e.flip chosen) := by
  induction e using children_induction generalizing chosen with
  | node kind children ty ih =>
    by_cases turns : Turns chosen kind children.length
    · obtain ⟨op, left, right, rfl, rfl⟩ := turns.exists_operands
      rw [flip_comparison turns.1]
      exact turned op left right _ _ ty ⟨_, rfl⟩ ⟨_, rfl⟩ (ih left (by simp) _)
        (ih right (by simp) _)
    · rw [flip_of_not_turns turns]
      refine same kind children _ ty ?_ ?_
      · refine List.forall₂_iff_get.2 ⟨List.length_mapIdx.symm, fun i _ _ => ⟨chosen.inside i, ?_⟩⟩
        simp
      · refine List.forall₂_iff_get.2 ⟨List.length_mapIdx.symm, fun i left _ => ?_⟩
        simpa using ih _ (List.getElem_mem left) (chosen.inside i)

end Forms

/-! ### What stays -/

section Kept

variable (chosen : Choice) (e : Expr)

theorem ty_flip : (e.flip chosen).ty = e.ty :=
  flip_induction (motive := fun e f => f.ty = e.ty) (fun _ _ _ _ _ _ => rfl)
    (fun _ _ _ _ _ _ _ _ _ _ => rfl) chosen e

theorem contains_flip (shape : Shape) : e.contains shape = (e.flip chosen).contains shape := by
  refine flip_induction (motive := fun e f => e.contains shape = f.contains shape) ?_ ?_ chosen e
  · intro kind cs ds ty _ alike
    rw [contains, contains, anyContains_eq_any, anyContains_eq_any, any_eq_of_forall₂ alike]
  · intro op left right left' right' ty _ _ first second
    simp [contains, anyContains, first, second, Kind.shape, Bool.or_comm]

theorem boundBy_flip (tuples : List TupleId) :
    e.boundBy tuples = (e.flip chosen).boundBy tuples := by
  refine flip_induction (motive := fun e f => e.boundBy tuples = f.boundBy tuples) ?_ ?_ chosen e
  · intro kind cs ds ty _ alike
    rw [boundBy_node, boundBy_node, all_eq_of_forall₂ alike]
  · intro op left right left' right' ty _ _ first second
    simp [boundBy, allBoundBy, first, second, Bool.and_comm]

/-- The slot references are the same, in another order. -/
theorem refs_flip : e.refs.Perm (e.flip chosen).refs := by
  refine flip_induction (motive := fun e f => e.refs.Perm f.refs) ?_ ?_ chosen e
  · intro kind cs ds ty flipped alike
    clear flipped
    rw [refs_node, refs_node]
    refine List.Perm.append_left _ ?_
    induction alike with
    | nil => exact .nil
    | cons first _ ih => exact first.append ih
  · intro op left right left' right' ty _ _ first second
    simpa [refs_node, Kind.ref?] using (first.append second).trans List.perm_append_comm

theorem depthAtMost_flip {n : Nat} (deep : e.DepthAtMost n) : (e.flip chosen).DepthAtMost n := by
  revert n
  refine flip_induction
    (motive := fun e f => ∀ {n}, e.DepthAtMost n → f.DepthAtMost n) ?_ ?_ chosen e
  · intro kind cs ds ty _ alike n deep
    obtain ⟨positive, inner⟩ := depthAtMost_node.1 deep
    refine depthAtMost_node.2 ⟨positive, fun d member => ?_⟩
    obtain ⟨c, inside, kept⟩ := exists_mem_of_forall₂ alike member
    exact kept (inner c inside)
  · intro op left right left' right' ty _ _ first second n deep
    obtain ⟨positive, inner⟩ := depthAtMost_node.1 deep
    refine depthAtMost_node.2 ⟨positive, ?_⟩
    simp [first (inner left (by simp)), second (inner right (by simp))]

theorem widthAtMost_flip {n : Nat} (wide : e.WidthAtMost n) : (e.flip chosen).WidthAtMost n := by
  revert wide
  refine flip_induction (motive := fun e f => e.WidthAtMost n → f.WidthAtMost n) ?_ ?_ chosen e
  · intro kind cs ds ty _ alike wide
    obtain ⟨narrow, inner⟩ := widthAtMost_node.1 wide
    refine widthAtMost_node.2 ⟨alike.length_eq ▸ narrow, fun d member => ?_⟩
    obtain ⟨c, inside, kept⟩ := exists_mem_of_forall₂ alike member
    exact kept (inner c inside)
  · intro op left right left' right' ty _ _ first second wide
    obtain ⟨narrow, inner⟩ := widthAtMost_node.1 wide
    refine widthAtMost_node.2 ⟨narrow, ?_⟩
    simp [first (inner left (by simp)), second (inner right (by simp))]

/-- Trees with the same slot references, in any order, refer to the same ids. -/
theorem mem_references_of_perm {e f : Expr} (same : e.refs.Perm f.refs) (start : References) :
    (∀ id, id ∈ (f.references start).tuples ↔ id ∈ (e.references start).tuples) ∧
      ∀ id, id ∈ (f.references start).slots ↔ id ∈ (e.references start).slots := by
  obtain ⟨tuples, slots, found, firstTuples, firstSlots⟩ := references_eq_append e start
  obtain ⟨tuples', slots', found', firstTuples', firstSlots'⟩ := references_eq_append f start
  simp only [found, found', List.mem_append, firstTuples.mem_iff, firstTuples'.mem_iff,
    firstSlots.mem_iff, firstSlots'.mem_iff, List.mem_map, same.mem_iff, implies_true, and_self]

end Kept

/-! ### Where the nodes are -/

section Places

variable (chosen : Choice) (e : Expr)

theorem getElem?_children_flip (place : Nat) :
    (e.flip chosen).children[place]? =
      e.children[placeIn chosen e place]?.map (flip (chosen.inside (placeIn chosen e place))) := by
  obtain ⟨kind, children, ty⟩ := e
  by_cases turns : Turns chosen kind children.length
  · obtain ⟨op, left, right, rfl, rfl⟩ := turns.exists_operands
    rw [flip_comparison turns.1, placeIn, if_pos turns.1]
    match place with
    | 0 | 1 | _ + 2 => rfl
  · rw [flip_of_not_turns turns, placeIn_of_not_turns turns]
    simp

/-- What a path leads to in the flipped tree is what it came from, flipped. -/
theorem at?_flip (path : List Nat) :
    (e.flip chosen).at? path = (e.at? (e.pathBefore chosen path)).map
      (flip fun rest => chosen (e.pathBefore chosen path ++ rest)) := by
  induction path generalizing e chosen with
  | nil => rfl
  | cons place path ih =>
    simp only [at?, pathBefore, getElem?_children_flip]
    cases found : e.children[placeIn chosen e place]? with
    | none => simp [at?, found]
    | some c =>
      simp only [Option.map_some, ih, at?, found]
      rfl

/-- The choice of the same nodes in the flipped tree. -/
def sameNodes (chosen : Choice) (e : Expr) : Choice := fun path => chosen (e.pathBefore chosen path)

theorem inside_sameNodes {chosen : Choice} {e c : Expr} {place : Nat}
    (found : e.children[placeIn chosen e place]? = some c) :
    (sameNodes chosen e).inside place = sameNodes (chosen.inside (placeIn chosen e place)) c := by
  funext path
  simp only [Choice.inside, sameNodes, pathBefore, found]

/-- Turning the same nodes around again gives the tree back. -/
theorem flip_flip : (e.flip chosen).flip (sameNodes chosen e) = e := by
  induction e using children_induction generalizing chosen with
  | node kind children ty ih =>
    have again : sameNodes chosen (node kind children ty) [] = chosen [] := rfl
    have restored : ∀ place c, children[placeIn chosen (node kind children ty) place]? = some c →
        (c.flip (chosen.inside (placeIn chosen (node kind children ty) place))).flip
          ((sameNodes chosen (node kind children ty)).inside place) = c := by
      intro place c found
      rw [inside_sameNodes (e := node kind children ty) found]
      exact ih c (List.mem_of_getElem? found) _
    by_cases turns : Turns chosen kind children.length
    · obtain ⟨op, left, right, rfl, rfl⟩ := turns.exists_operands
      rw [flip_comparison turns.1, flip_comparison (again.trans turns.1), op.converse_converse]
      have first := restored 1 left (by simp [placeIn, turns.1, placeBefore])
      have second := restored 0 right (by simp [placeIn, turns.1, placeBefore])
      simp only [placeIn, turns.1, if_true, placeBefore] at first second
      rw [first, second]
    · have stays : ¬ Turns (sameNodes chosen (node kind children ty)) kind
          (children.mapIdx fun i c => c.flip (chosen.inside i)).length := by
        rw [List.length_mapIdx]
        exact turns
      rw [flip_of_not_turns turns, flip_of_not_turns stays, List.mapIdx_mapIdx]
      refine congrArg (node kind · ty) (List.ext_getElem? fun place => ?_)
      rw [List.getElem?_mapIdx]
      cases found : children[place]? with
      | none => rfl
      | some c =>
        have back := restored place c
        rw [placeIn_of_not_turns turns] at back
        exact congrArg some (back found)

theorem placeIn_placeIn (place : Nat) :
    placeIn chosen e (placeIn (sameNodes chosen e) (e.flip chosen) place) = place := by
  obtain ⟨kind, children, ty⟩ := e
  have again : sameNodes chosen (node kind children ty) [] = chosen [] := rfl
  by_cases turns : Turns chosen kind children.length
  · obtain ⟨op, left, right, rfl, rfl⟩ := turns.exists_operands
    rw [flip_comparison turns.1]
    simp only [placeIn, again, turns.1, if_true]
    match place with
    | 0 | 1 | _ + 2 => rfl
  · have stays : ¬ Turns (sameNodes chosen (node kind children ty)) kind
        (children.mapIdx fun i c => c.flip (chosen.inside i)).length := by
      rw [List.length_mapIdx]
      exact turns
    rw [flip_of_not_turns turns, placeIn_of_not_turns turns, placeIn_of_not_turns stays]

/-- Every path of the tree is where one of the flipped tree came from. -/
theorem pathBefore_pathBefore (path : List Nat) :
    e.pathBefore chosen ((e.flip chosen).pathBefore (sameNodes chosen e) path) = path := by
  induction path generalizing e chosen with
  | nil => rfl
  | cons place path ih =>
    have back := placeIn_placeIn chosen e place
    have child := getElem?_children_flip chosen e
      (placeIn (sameNodes chosen e) (e.flip chosen) place)
    rw [back] at child
    rw [pathBefore, child]
    cases found : e.children[place]? with
    | none => simp only [Option.map_none, pathBefore, back, found]
    | some c =>
      have inner := inside_sameNodes (by rwa [back] : e.children[placeIn chosen e
        (placeIn (sameNodes chosen e) (e.flip chosen) place)]? = some c)
      rw [back] at inner
      simp only [Option.map_some, pathBefore, back, found, inner, ih]

theorem children_bare : e.bare.children = e.children.map bare := by
  obtain ⟨kind, children, ty⟩ := e
  rw [bare, mapNodes_node]
  rfl

theorem node_bare (kind : Kind) (children : List Expr) (ty : DataType) :
    (node kind children ty).bare = node kind (children.map bare) .invalid :=
  mapNodes_node id _ kind children ty

/-- A tree without its types is flipped alike. -/
theorem bare_flip : (e.flip chosen).bare = e.bare.flip chosen := by
  induction e using children_induction generalizing chosen with
  | node kind children ty ih =>
    by_cases turns : Turns chosen kind children.length
    · obtain ⟨op, left, right, rfl, rfl⟩ := turns.exists_operands
      rw [flip_comparison turns.1, node_bare, node_bare, List.map_cons, List.map_cons,
        List.map_cons, List.map_cons, List.map_nil, flip_comparison turns.1, ih left (by simp),
        ih right (by simp)]
    · have stays : ¬ Turns chosen kind (children.map bare).length := by rwa [List.length_map]
      rw [flip_of_not_turns turns, node_bare, node_bare, flip_of_not_turns stays]
      refine congrArg (node kind · .invalid) (List.ext_getElem? fun place => ?_)
      simp only [List.getElem?_map, List.getElem?_mapIdx, Option.map_map]
      cases found : children[place]? with
      | none => rfl
      | some c => exact congrArg some (ih c (List.mem_of_getElem? found) _)

theorem placeIn_bare (place : Nat) : placeIn chosen e.bare place = placeIn chosen e place := by
  obtain ⟨kind, children, ty⟩ := e
  rw [node_bare]
  by_cases turns : Turns chosen kind children.length
  · obtain ⟨op, left, right, rfl, rfl⟩ := turns.exists_operands
    match place with
    | 0 | 1 | _ + 2 => rfl
  · have stays : ¬ Turns chosen kind (children.map bare).length := by rwa [List.length_map]
    rw [placeIn_of_not_turns turns, placeIn_of_not_turns stays]

theorem pathBefore_bare (path : List Nat) :
    e.bare.pathBefore chosen path = e.pathBefore chosen path := by
  induction path generalizing e chosen with
  | nil => rfl
  | cons place path ih =>
    simp only [pathBefore, placeIn_bare, children_bare, List.getElem?_map]
    cases e.children[placeIn chosen e place]? with
    | none => rfl
    | some c => exact congrArg _ (ih _ c)

end Places

end Expr
end ScalarSql

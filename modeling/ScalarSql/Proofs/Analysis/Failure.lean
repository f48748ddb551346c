import ScalarSql.Expr.Build
import ScalarSql.Proofs.Analysis.Success
import ScalarSql.Proofs.Tree.Visits

/-!
Where a walk breaks off and what it leaves behind. A limit is checked when a node is entered, a rule
when it is left. All that a walk has left before it breaks off has the types that analysing it alone
gives, and everything else keeps the types that it had (`walk_failure`, `analyze_failure`).
-/
namespace ScalarSql

/-- The tree is refused for its shape, not for the types in it. -/
def AnalysisError.isLimit : AnalysisError → Bool
  | depthLimit _ | childrenLimit _ _ => true
  | _ => false

/-- The tree is refused for a slot that it refers to. -/
def AnalysisError.isSlot : AnalysisError → Bool
  | unknownSlot _ | untypedSlot _ => true
  | _ => false

theorem Limits.violation?_eq_some_iff {limits : Limits} {depth children : Nat}
    {E : AnalysisError} :
    limits.violation? depth children = some E ↔
      E = .depthLimit limits.maxDepth ∧ limits.maxDepth < depth ∨
        E = .childrenLimit limits.maxChildren children ∧ depth ≤ limits.maxDepth ∧
          limits.maxChildren < children := by
  unfold violation?
  split
  next deep => simp [deep, Nat.not_le.2 deep, eq_comm]
  next fits =>
    split
    next wide => simp [fits, wide, Nat.not_lt.1 fits, eq_comm]
    next narrow => simp [fits, narrow]

theorem Limits.isLimit_of_violation? {limits : Limits} {depth children : Nat}
    {E : AnalysisError} (exceeded : limits.violation? depth children = some E) :
    E.isLimit = true := by
  rcases violation?_eq_some_iff.1 exceeded with ⟨rfl, -⟩ | ⟨rfl, -⟩ <;> rfl

theorem orFail_error_iff {α : Type} {value : Option α} {e E : AnalysisError} :
    orFail value e = .error E ↔ value = none ∧ e = E := by
  cases value <;> simp [orFail]

namespace Analyzer

variable {a : Analyzer}

theorem isSlot_of_slotType {id : SlotId} {E : AnalysisError} (refused : a.slotType id = .error E) :
    E.isSlot = true := by
  unfold slotType at refused
  split at refused
  next =>
    cases refused
    rfl
  next =>
    split at refused
    next => cases refused
    next =>
      cases refused
      rfl

/-- Rules know no limits, and only the rule for references knows slots. -/
theorem rule_error_cases {kind : Kind} {children : List Expr} {E : AnalysisError}
    (refused : a.rule kind children = .error E) :
    (∃ ref, kind = .slot ref ∧ a.slotType ref.slot = .error E) ∨
      E.isSlot = false ∧ E.isLimit = false := by
  cases kind with
  | slot ref => exact Or.inl ⟨ref, rfl, refused⟩
  | literal value | nullTest negated => cases refused
  | arithmetic op | pattern op | call name =>
    obtain ⟨-, rfl⟩ := orFail_error_iff.1 refused
    exact Or.inr ⟨rfl, rfl⟩
  | comparison op | connective op | membership negated | range negated | cast target =>
    simp only [rule] at refused
    split at refused
    all_goals
      cases refused
      try exact Or.inr ⟨rfl, rfl⟩
  | aggregate op distinct =>
    simp only [rule] at refused
    split at refused
    next =>
      cases refused
      exact Or.inr ⟨rfl, rfl⟩
    next =>
      obtain ⟨-, rfl⟩ := orFail_error_iff.1 refused
      exact Or.inr ⟨rfl, rfl⟩

theorem isLimit_of_rule {kind : Kind} {children : List Expr} {E : AnalysisError}
    (refused : a.rule kind children = .error E) : E.isLimit = false := by
  rcases rule_error_cases refused with ⟨ref, -, unresolved⟩ | ⟨-, other⟩
  · have slot := isSlot_of_slotType unresolved
    cases E <;> first | rfl | cases slot
  · exact other

/-- The type that a tree gets when it is analysed alone. -/
def typeAlone (a : Analyzer) (e : Expr) : DataType := (a.analyze e).result.ty

/-- A walk gets past a step: the node that it enters is within the limits, the tree that it leaves
is accepted. -/
def Passes (a : Analyzer) : Visit → Prop
  | .enter depth n => a.limits.violation? depth n.children.length = none
  | .leave n => (a.analyze n).failure = none

/-- What is accepted somewhere is accepted further up, with the same types. -/
theorem walk_shallower {e : Expr} {depth depth' : Nat} (above : depth' ≤ depth)
    (success : (a.walk depth e).failure = none) :
    (a.walk depth' e).failure = none ∧ (a.walk depth' e).result = (a.walk depth e).result := by
  obtain ⟨deep, wide, settled⟩ := walk_success success
  exact walk_of_settled (walk_result_bare a depth e).symm settled (deep.mono (by omega)) wide

theorem map_ty_postorder {f : Expr → Expr} {es : List Expr}
    (each : ∀ e ∈ es, (f e).postorder.map Expr.ty = e.postorder.map a.typeAlone) :
    ((es.map f).flatMap Expr.postorder).map Expr.ty =
      (es.flatMap Expr.postorder).map a.typeAlone := by
  rw [List.flatMap_map, List.map_flatMap, List.map_flatMap]
  exact List.flatMap_congr each

/-- A walk that succeeds passes every step and leaves each node with the type that the node gets
alone. -/
theorem walk_passes {e : Expr} {depth : Nat} (positive : 1 ≤ depth)
    (success : (a.walk depth e).failure = none) :
    (∀ step ∈ e.visits depth, a.Passes step) ∧
      (a.walk depth e).result.postorder.map Expr.ty = e.postorder.map a.typeAlone := by
  induction e using Expr.children_induction generalizing depth with
  | node kind children ty ih =>
    obtain ⟨accepted, same⟩ := walk_shallower positive success
    obtain ⟨within, each, resolved, rule, left⟩ := walk_node_success_iff.1 ⟨success, rfl⟩
    have below : ∀ c ∈ children, (∀ step ∈ c.visits (depth + 1), a.Passes step) ∧
        (a.walk (depth + 1) c).result.postorder.map Expr.ty = c.postorder.map a.typeAlone :=
      fun c member => ih c member (Nat.le_add_left 1 depth) (each c member)
    constructor
    · intro step inside
      rw [Expr.visits_node] at inside
      rcases List.mem_cons.1 inside with rfl | deeper
      · exact Limits.violation?_eq_none_iff.2 within
      · rcases List.mem_append.1 deeper with inner | last
        · obtain ⟨c, member, inner⟩ := List.mem_flatMap.1 inner
          exact (below c member).1 step inner
        · obtain rfl := List.mem_singleton.1 last
          exact accepted
    · have root : a.typeAlone (.node kind children ty) = resolved := by
        rw [typeAlone, analyze, same, left, Expr.ty_node]
      rw [left, Expr.postorder_node, Expr.postorder_node, List.map_append, List.map_append,
        map_ty_postorder fun c member => (below c member).2, List.map_singleton,
        List.map_singleton, root, Expr.ty_node]

/-- The first tree that a walk over a list fails on has accepted trees before it and untouched ones
behind it. -/
theorem walkAll_failure {es : List Expr} {depth : Nat} {E : AnalysisError}
    (failed : (a.walkAll depth es).failure = some E) :
    ∃ before e after, es = before ++ e :: after ∧
      (∀ c ∈ before, (a.walk depth c).failure = none) ∧ (a.walk depth e).failure = some E ∧
      (a.walkAll depth es).result =
        before.map (fun c => (a.walk depth c).result) ++ (a.walk depth e).result :: after := by
  induction es with
  | nil => cases failed
  | cons e es ih =>
    rw [walkAll_cons] at failed ⊢
    cases first : (a.walk depth e).failure with
    | some F =>
      simp only [first] at failed ⊢
      exact ⟨[], e, es, rfl, by simp, first.trans failed, rfl⟩
    | none =>
      simp only [first] at failed ⊢
      obtain ⟨before, c, after, rfl, passed, broken, result⟩ := ih failed
      exact ⟨e :: before, c, after, rfl, List.forall_mem_cons.2 ⟨first, passed⟩, broken,
        by rw [result, List.map_cons, List.cons_append]⟩

/-- A walk fails at a node on entering it, below it, or by the rule for it. -/
theorem walk_node_failure_cases {depth : Nat} {kind : Kind} {children : List Expr} {ty : DataType}
    {E : AnalysisError} (failed : (a.walk depth (.node kind children ty)).failure = some E) :
    a.limits.violation? depth children.length = some E ∧
        a.walk depth (.node kind children ty) = ⟨.node kind children ty, [], some E⟩ ∨
      a.limits.violation? depth children.length = none ∧
        ((a.walkAll (depth + 1) children).failure = some E ∧
            a.walk depth (.node kind children ty) =
              ⟨.node kind (a.walkAll (depth + 1) children).result ty,
                (a.walkAll (depth + 1) children).calls, some E⟩ ∨
          (∀ c ∈ children, (a.walk (depth + 1) c).failure = none) ∧
            a.rule kind (children.map fun c => (a.walk (depth + 1) c).result) = .error E ∧
            (a.walk depth (.node kind children ty)).result =
              .node kind (children.map fun c => (a.walk (depth + 1) c).result) ty) := by
  rw [walk_node] at failed ⊢
  cases entered : a.limits.violation? depth children.length with
  | some F =>
    simp only [entered, Option.some.injEq] at failed ⊢
    subst failed
    exact Or.inl ⟨rfl, rfl⟩
  | none =>
    refine Or.inr ⟨rfl, ?_⟩
    cases below : (a.walkAll (depth + 1) children).failure with
    | some F =>
      simp only [entered, below, Option.some.injEq] at failed ⊢
      subst failed
      exact Or.inl ⟨rfl, rfl⟩
    | none =>
      refine Or.inr ⟨walkAll_failure_eq_none_iff.1 below, ?_⟩
      simp only [entered, below, walkAll_result_of_success below] at failed ⊢
      cases rule : a.rule kind (children.map fun c => (a.walk (depth + 1) c).result) with
      | ok resolved => simp [rule] at failed
      | error F =>
        simp only [rule, Option.some.injEq] at failed
        subst failed
        exact ⟨rfl, rfl⟩

/-- A walk passes a node that is within the limits on entering it, and then all steps over children
that are accepted. -/
theorem passes_entered {depth : Nat} {kind : Kind} {children left : List Expr} {ty : DataType}
    (entered : a.limits.violation? depth children.length = none)
    (accepted : ∀ c ∈ left, (a.walk (depth + 1) c).failure = none) :
    ∀ step ∈ .enter depth (.node kind children ty) :: left.flatMap (Expr.visits (depth + 1)),
      a.Passes step := by
  intro step inside
  rcases List.mem_cons.1 inside with rfl | deeper
  · exact entered
  · obtain ⟨c, member, inner⟩ := List.mem_flatMap.1 deeper
    exact (walk_passes (Nat.le_add_left 1 depth) (accepted c member)).1 step inner

/-- How a walk breaks off at a node of the given depth: on entering it, so that nothing below is
touched, or on leaving it, after everything below is accepted. The lists are the nodes of the tree
that get types and those that keep theirs, in post-order. -/
inductive BreaksOff (a : Analyzer) (E : AnalysisError) (depth : Nat) (n : Expr) :
    List Expr → List Expr → Prop
  | entering : a.limits.violation? depth n.children.length = some E →
      BreaksOff a E depth n [] n.postorder
  | leaving : a.limits.violation? depth n.children.length = none →
      (∀ c ∈ n.children, (a.walk (depth + 1) c).failure = none) →
      a.rule n.kind (n.children.map fun c => (a.walk (depth + 1) c).result) = .error E →
      BreaksOff a E depth n (n.children.flatMap Expr.postorder) [n]

/-- A walk over the tree passes every step up to a node at which it breaks off. Of the types in
post-order, those of the nodes left by then are the ones that they get alone, and the others are the
ones that they had. -/
def Stopped (a : Analyzer) (E : AnalysisError) (depth : Nat) (e : Expr)
    (types : List DataType) : Prop :=
  ∃ path n before after done kept, e.at? path = some n ∧
    e.visits depth = before ++ n.visits (depth + path.length) ++ after ∧
    (∀ step ∈ before, a.Passes step) ∧ a.BreaksOff E (depth + path.length) n done kept ∧
    types = (Visit.left before ++ done).map a.typeAlone ++ (kept ++ Visit.left after).map Expr.ty

/-- A walk breaks off below a node if it does in a child after accepting the children before it. -/
theorem stopped_node {E : AnalysisError} {depth : Nat} {kind : Kind} {left right : List Expr}
    {c : Expr} {ty : DataType} {types : List DataType}
    (entered : a.limits.violation? depth (left ++ c :: right).length = none)
    (accepted : ∀ d ∈ left, (a.walk (depth + 1) d).failure = none)
    (stopped : a.Stopped E (depth + 1) c types) :
    a.Stopped E depth (.node kind (left ++ c :: right) ty)
      ((left.flatMap Expr.postorder).map a.typeAlone ++ types ++
        ((right.flatMap Expr.postorder).map Expr.ty ++ [ty])) := by
  obtain ⟨path, n, before, after, done, kept, leads, course, passes, breaks, rfl⟩ := stopped
  have level : depth + 1 + path.length = depth + (left.length :: path).length := by
    rw [List.length_cons, Nat.add_assoc, Nat.add_comm 1]
  rw [level] at course breaks
  refine ⟨left.length :: path, n,
    .enter depth (.node kind (left ++ c :: right) ty) ::
      (left.flatMap (Expr.visits (depth + 1)) ++ before),
    after ++ (right.flatMap (Expr.visits (depth + 1)) ++
      [.leave (.node kind (left ++ c :: right) ty)]), done, kept, ?_, ?_, ?_, breaks, ?_⟩
  · exact Expr.at?_cons_eq_some.2 ⟨c, by simp, leads⟩
  · rw [Expr.visits_node, List.flatMap_append, List.flatMap_cons, course]
    simp only [List.append_assoc, List.cons_append]
  · intro step inside
    rw [← List.cons_append] at inside
    rcases List.mem_append.1 inside with earlier | nearer
    · exact passes_entered entered accepted step earlier
    · exact passes step nearer
  · have last : (Visit.left [.leave (.node kind (left ++ c :: right) ty)]).map Expr.ty = [ty] := rfl
    simp only [Visit.left_enter, Visit.left_append, Expr.left_flatMap_visits, List.map_append,
      List.append_assoc, last]

/-- A walk that fails breaks off at some node. -/
theorem walk_failure {e : Expr} {depth : Nat} {E : AnalysisError} (positive : 1 ≤ depth)
    (failed : (a.walk depth e).failure = some E) :
    a.Stopped E depth e ((a.walk depth e).result.postorder.map Expr.ty) := by
  induction e using Expr.children_induction generalizing depth with
  | node kind children ty ih =>
    have later : 1 ≤ depth + 1 := Nat.le_add_left 1 depth
    rcases walk_node_failure_cases failed with
      ⟨exceeded, outcome⟩ | ⟨entered, ⟨below, outcome⟩ | ⟨accepted, refused, result⟩⟩
    · rw [outcome]
      exact ⟨[], _, [], [], _, _, rfl, (List.append_nil _).symm, by simp, .entering exceeded,
        by simp [Visit.left]⟩
    · obtain ⟨left, c, right, rfl, accepted, broken, result⟩ := walkAll_failure below
      have types := map_ty_postorder fun d member => (walk_passes later (accepted d member)).2
      have stopped : a.Stopped E depth (.node kind (left ++ c :: right) ty) _ :=
        stopped_node entered accepted (ih c (by simp) later broken)
      rw [← types] at stopped
      rw [outcome]
      simpa [Expr.postorder_node, result] using stopped
    · refine ⟨[], .node kind children ty, [], [], _, _, rfl, (List.append_nil _).symm, by simp,
        .leaving entered accepted refused, ?_⟩
      rw [result, Expr.postorder_node, List.map_append,
        map_ty_postorder fun c member => (walk_passes later (accepted c member)).2]
      rfl

section Breaks
variable {E : AnalysisError} {depth : Nat} {n : Expr} {done kept : List Expr}

theorem BreaksOff.postorder_eq (breaks : a.BreaksOff E depth n done kept) :
    n.postorder = done ++ kept := by
  cases breaks with
  | entering _ => rfl
  | leaving _ _ _ =>
    obtain ⟨kind, children, ty⟩ := n
    exact Expr.postorder_node kind children ty

/-- Nodes that a walk has left are accepted alone. -/
theorem BreaksOff.accepted (breaks : a.BreaksOff E depth n done kept) :
    ∀ m ∈ done, (a.analyze m).failure = none := by
  cases breaks with
  | entering _ => simp
  | leaving _ accepted _ =>
    intro m member
    obtain ⟨c, inside, below⟩ := List.mem_flatMap.1 member
    have passes := (walk_passes (Nat.le_add_left 1 depth) (accepted c inside)).1
    rw [← Expr.left_visits (depth + 1)] at below
    exact passes (.leave m) (Visit.mem_left.1 below)

/-- A node refused by its rule is refused alone. -/
theorem BreaksOff.refused (breaks : a.BreaksOff E depth n done kept) (positive : 1 ≤ depth)
    (rule : E.isLimit = false) :
    kept = [n] ∧ (a.analyze n).failure = some E ∧ ∀ c ∈ n.children, (a.analyze c).failure = none := by
  cases breaks with
  | entering exceeded =>
    rw [Limits.isLimit_of_violation? exceeded] at rule
    cases rule
  | leaving within accepted refused =>
    obtain ⟨kind, children, ty⟩ := n
    obtain ⟨deep, wide⟩ := Limits.violation?_eq_none_iff.1 within
    have entered : a.limits.violation? 1 children.length = none :=
      Limits.violation?_eq_none_iff.2 ⟨Nat.le_trans positive deep, wide⟩
    have alone : ∀ c ∈ children, (a.walk 2 c).failure = none ∧
        (a.walk 2 c).result = (a.walk (depth + 1) c).result :=
      fun c member => walk_shallower (Nat.succ_le_succ positive) (accepted c member)
    have below : (a.walkAll 2 children).failure = none :=
      walkAll_failure_eq_none_iff.2 fun c member => (alone c member).1
    have results : (a.walkAll 2 children).result =
        children.map fun c => (a.walk (depth + 1) c).result := by
      rw [walkAll_result_of_success below]
      exact List.map_congr_left fun c member => (alone c member).2
    refine ⟨rfl, ?_, fun c member => (walk_shallower (Nat.le_succ 1) (alone c member).1).1⟩
    rw [analyze, walk_node]
    simp only [Expr.kind_node, Expr.children_node] at refused
    simp only [entered, below, results, refused]

/-- Under a node that exceeds a limit nothing is touched. -/
theorem BreaksOff.exceeded (breaks : a.BreaksOff E depth n done kept) (shape : E.isLimit = true) :
    done = [] ∧ kept = n.postorder ∧ a.limits.violation? depth n.children.length = some E := by
  cases breaks with
  | entering exceeded => exact ⟨rfl, rfl, exceeded⟩
  | leaving _ _ refused =>
    rw [isLimit_of_rule refused] at shape
    cases shape

end Breaks

/-- A tree refused for a slot has a reference to that slot. -/
theorem exists_ref_of_failure {e : Expr} {E : AnalysisError}
    (failed : (a.analyze e).failure = some E) (slot : E.isSlot = true) :
    ∃ n ∈ e.nodes, ∃ ref, n.kind = .slot ref ∧ a.slotType ref.slot = .error E := by
  obtain ⟨path, n, _, _, _, _, leads, _, _, breaks, _⟩ := walk_failure (Nat.le_refl 1) failed
  refine ⟨n, Expr.mem_nodes_iff_at?.2 ⟨path, leads⟩, ?_⟩
  cases breaks with
  | entering exceeded =>
    rcases Limits.violation?_eq_some_iff.1 exceeded with ⟨rfl, -⟩ | ⟨rfl, -⟩ <;> cases slot
  | leaving _ _ refused =>
    rcases rule_error_cases refused with found | ⟨other, -⟩
    · exact found
    · rw [other] at slot
      cases slot

/-- A failed analysis changes types only. For some number of nodes, the first so many in post-order
have the types that they get when their subtrees are analysed alone, and all others keep the types
that they had. If no limit is exceeded, the first of the others is refused with the same error when
it is analysed alone, and its children are accepted. If a limit is exceeded, the others start with
the whole subtree of a node that exceeds it, the walk has passed every step before it enters that
node, and the first are exactly the nodes that it has left by then. -/
theorem analyze_failure {e : Expr} {E : AnalysisError}
    (failed : (a.analyze e).failure = some E) :
    (a.analyze e).result.bare = e.bare ∧
    ∃ done kept, e.postorder = done ++ kept ∧
      (∀ n ∈ done, (a.analyze n).failure = none) ∧
      (a.analyze e).result.postorder.map Expr.ty =
        done.map (fun n => (a.analyze n).result.ty) ++ kept.map Expr.ty ∧
      (E.isLimit = false → ∃ n rest, kept = n :: rest ∧ (a.analyze n).failure = some E ∧
        ∀ c ∈ n.children, (a.analyze c).failure = none) ∧
      (E.isLimit = true → ∃ path n before after rest, e.at? path = some n ∧
        (E = .depthLimit a.limits.maxDepth ∧ a.limits.maxDepth < path.length + 1 ∨
          E = .childrenLimit a.limits.maxChildren n.children.length ∧
            a.limits.maxChildren < n.children.length) ∧
        done = Visit.left before ∧ kept = n.postorder ++ rest ∧
        e.visits 1 = before ++ n.visits (path.length + 1) ++ after ∧
        ∀ step ∈ before, a.Passes step) := by
  refine ⟨walk_result_bare a 1 e, ?_⟩
  obtain ⟨path, n, before, after, done, kept, leads, course, passes, breaks, types⟩ :=
    walk_failure (Nat.le_refl 1) failed
  refine ⟨Visit.left before ++ done, kept ++ Visit.left after, ?_, ?_, types, ?_, ?_⟩
  · rw [← Expr.left_visits 1, course, Visit.left_append, Visit.left_append, Expr.left_visits,
      breaks.postorder_eq]
    simp only [List.append_assoc]
  · intro m member
    rcases List.mem_append.1 member with earlier | below
    · exact passes (.leave m) (Visit.mem_left.1 earlier)
    · exact breaks.accepted m below
  · intro rule
    obtain ⟨rfl, refused, accepted⟩ := breaks.refused (Nat.le_add_right 1 _) rule
    exact ⟨n, Visit.left after, rfl, refused, accepted⟩
  · intro shape
    obtain ⟨rfl, rfl, exceeded⟩ := breaks.exceeded shape
    rw [Nat.add_comm 1] at exceeded course
    refine ⟨path, n, before, after, Visit.left after, leads, ?_, List.append_nil _, rfl, course,
      passes⟩
    rcases Limits.violation?_eq_some_iff.1 exceeded with deep | ⟨same, -, wide⟩
    · exact Or.inl deep
    · exact Or.inr ⟨same, wide⟩

/-- A tree with a wrong operand and a branch that is too deep is refused for what the walk meets
first. -/
theorem wrong_operand_or_deep_branch :
    let a : Analyzer := { scope := { number := 1 }, limits := { maxDepth := 3 } }
    let wrong : Expr := .arithmetic .add (.literal (.string "a")) (.literal (.int 1))
    let deep : Expr := (Expr.not (.not (.isNull (.literal .null)))).setType .date
    let E : AnalysisError := .operandTypes "+" .string (some .tinyInt)
    ((a.analyze (.and wrong deep)).failure = some E ∧
      ∃ done n rest, (Expr.and wrong deep).postorder = done ++ n :: rest ∧
        (a.analyze (.and wrong deep)).result.postorder.map Expr.ty =
          done.map (fun n => (a.analyze n).result.ty) ++ (n :: rest).map Expr.ty ∧
        (a.analyze n).failure = some E) ∧
    ((a.analyze (.and deep wrong)).failure = some (.depthLimit 3) ∧
      ∃ path n done rest, (Expr.and deep wrong).at? path = some n ∧ 3 < path.length + 1 ∧
        (Expr.and deep wrong).postorder = done ++ (n.postorder ++ rest) ∧
        (a.analyze (.and deep wrong)).result.postorder.map Expr.ty =
          done.map (fun n => (a.analyze n).result.ty) ++ (n.postorder ++ rest).map Expr.ty) := by
  intro a wrong deep E
  have refused : (a.analyze (.and wrong deep)).failure = some E := by decide
  have tooDeep : (a.analyze (.and deep wrong)).failure = some (.depthLimit 3) := by decide
  refine ⟨⟨refused, ?_⟩, tooDeep, ?_⟩
  · obtain ⟨-, done, kept, nodes, -, types, rule, -⟩ := analyze_failure refused
    obtain ⟨n, rest, rfl, alone, -⟩ := rule rfl
    exact ⟨done, n, rest, nodes, types, alone⟩
  · obtain ⟨-, done, kept, nodes, -, types, -, shape⟩ := analyze_failure tooDeep
    obtain ⟨path, n, -, -, rest, leads, exceeded, -, rfl, -⟩ := shape rfl
    rcases exceeded with ⟨-, deeper⟩ | ⟨other, -⟩
    · exact ⟨path, n, done, rest, leads, deeper, nodes, types⟩
    · cases other

end Analyzer
end ScalarSql

import ScalarSql.Proofs.Analysis.Agreement
import ScalarSql.Proofs.Analysis.Failure
import ScalarSql.Proofs.Scope.Ownership
import ScalarSql.Proofs.Scope.Resolution

/-!
Growing a scope is conservative. Calls that set neither the type nor the column of the slots that
are there leave these slots in their places, as they are up to their labels. An analysis that does
not fail for a slot then comes out the same, and a name that stood for a slot goes on standing for
it, unless it is unqualified and another slot has come to bear it (`growth_conservative`).
-/
namespace ScalarSql

namespace Scope

/-- An extension in which the slots are as they were, apart from their labels. -/
structure Conserves (later s : Scope) : Prop where
  extension : later.Extends s
  slots : s.slots.map Slot.unlabeled <+: later.slots.map Slot.unlabeled

variable {s later : Scope}

theorem Sound.run_conserves (sound : s.Sound) {requests : List Request}
    (spared : ∀ request ∈ requests, request.Spares (s.slots.map (·.id))) :
    (s.run requests).Conserves s := by
  refine ⟨sound.run_extends requests, List.prefix_iff_getElem?.2 ?_⟩
  intro j bound
  rw [List.length_map] at bound
  have found : s.slots[j]? = some s.slots[j] := List.getElem?_eq_getElem bound
  obtain ⟨y, found', same⟩ :=
    sound.run_spared spared found (List.mem_map_of_mem (List.getElem_mem bound))
  rw [List.getElem?_map, found', List.getElem_map, Option.map_some, same]

namespace Conserves

theorem slot? (kept : later.Conserves s) {id : SlotId} {x : Slot} (found : s.slot? id = some x) :
    ∃ y, later.slot? id = some y ∧ y.unlabeled = x.unlabeled := by
  unfold Scope.slot? at found ⊢
  rw [kept.extension.number]
  split at found
  next same =>
    rw [if_pos same]
    have place : (s.slots.map Slot.unlabeled)[id.index.toNat]? = some x.unlabeled := by
      rw [List.getElem?_map, found, Option.map_some]
    exact Option.map_eq_some_iff.1
      (List.getElem?_map.symm.trans (getElem?_of_isPrefix kept.slots place))
  next => cases found

/-- A tuple keeps its slots in front of those that it gets. -/
theorem tupleSlots_map (kept : later.Conserves s) (sound : s.Sound) (sound' : later.Sound)
    (id : TupleId) :
    (s.tupleSlots id).map Slot.unlabeled <+: (later.tupleSlots id).map Slot.unlabeled := by
  have owner : ∀ slots : List Slot, (slots.filter (·.parent = id)).map Slot.unlabeled =
      (slots.map Slot.unlabeled).filter (·.parent = id) := by
    intro slots
    rw [List.filter_map]
    rfl
  rw [sound.tupleSlots_eq_filter, sound'.tupleSlots_eq_filter, owner, owner]
  exact kept.slots.filter _

/-- The table that goes by a name goes on doing so. -/
theorem findTuple? (kept : later.Conserves s) (sound' : later.Sound) {name : String} {t : Tuple}
    (found : s.findTuple? name = some t) :
    ∃ u, later.findTuple? name = some u ∧ u.id = t.id := by
  have goes : t.reference?.any (Text.alike · name) = true :=
    List.find?_some (p := fun t : Tuple => t.reference?.any (Text.alike · name)) found
  obtain ⟨own, named, same⟩ := any_alike_iff.1 goes
  obtain ⟨u, member, id, reference⟩ :=
    kept.extension.exists_tuple (List.mem_of_find?_eq_some found)
  exact ⟨u, sound'.findTuple?_eq_some member (reference.trans named) (Text.alike_symm same), id⟩

/-- The first slot of a table that is bound to a column of the name goes on being the first. -/
theorem findSlot? (kept : later.Conserves s) (sound : s.Sound) (sound' : later.Sound)
    {reference name : String} {x : Slot} (found : s.findSlot? reference name = some x) :
    ∃ y, later.findSlot? reference name = some y ∧ y.unlabeled = x.unlabeled := by
  obtain ⟨t, table, first⟩ := Option.bind_eq_some_iff.1 found
  obtain ⟨u, table', id⟩ := kept.findTuple? sound' table
  have column : ∀ slots : List Slot, ((slots.map Slot.unlabeled).find? (·.isColumn name)) =
      (slots.find? (·.isColumn name)).map Slot.unlabeled := by
    intro slots
    rw [List.find?_map]
    rfl
  have there := (kept.tupleSlots_map sound sound' t.id).find?_eq_some
    (p := (·.isColumn name)) (b := x.unlabeled) (by rw [column, first, Option.map_some])
  rw [column, ← id] at there
  obtain ⟨y, first', same⟩ := Option.map_eq_some_iff.1 there
  exact ⟨y, Option.bind_eq_some_iff.2 ⟨u, table', first'⟩, same⟩

/-- A slot bound to a column of the name stays so. -/
theorem mem_columnSlots (kept : later.Conserves s) (sound : s.Sound) (sound' : later.Sound)
    {name : String} {x : Slot} (member : x ∈ s.columnSlots name) :
    ∃ y ∈ later.columnSlots name, y.unlabeled = x.unlabeled := by
  obtain ⟨listed, bound⟩ := List.mem_filter.1 member
  obtain ⟨t, table, owned⟩ := List.mem_flatMap.1 listed
  obtain ⟨u, table', id, -⟩ := kept.extension.exists_tuple table
  have there := (kept.tupleSlots_map sound sound' t.id).subset (List.mem_map_of_mem owned)
  obtain ⟨y, owned', same⟩ := List.mem_map.1 there
  refine ⟨y, List.mem_filter.2 ⟨List.mem_flatMap.2 ⟨u, table', id ▸ owned'⟩, ?_⟩, same⟩
  obtain ⟨-, -, -, column⟩ := Slot.unlabeled_eq_iff.1 same
  rw [Slot.isColumn, column]
  exact bound

/-- A name that stood for a slot stands for it or, if unqualified, for several. -/
theorem resolveColumn (kept : later.Conserves s) (sound : s.Sound) (sound' : later.Sound)
    {qualifier : Option String} {name : String} {ref : SlotRef}
    (resolved : s.resolveColumn qualifier name = .ok (.slot ref)) :
    (∃ ref', later.resolveColumn qualifier name = .ok (.slot ref') ∧ ref'.tuple = ref.tuple ∧
        ref'.slot = ref.slot) ∨
      qualifier = none ∧ later.resolveColumn qualifier name = .error (.ambiguousColumn name) := by
  cases qualifier with
  | some reference =>
    refine Or.inl ?_
    unfold Scope.resolveColumn at resolved ⊢
    dsimp only at resolved ⊢
    split at resolved
    next => cases resolved
    next table =>
      split at resolved
      next x first =>
        cases resolved
        obtain ⟨y, first', same⟩ := kept.findSlot? sound sound' first
        obtain ⟨id, parent, -⟩ := Slot.unlabeled_eq_iff.1 same
        obtain ⟨u, table', -⟩ := Option.bind_eq_some_iff.1 first'
        refine ⟨y.ref, ?_, parent, id⟩
        rw [table', first']
        rfl
      next => cases resolved
  | none =>
    unfold Scope.resolveColumn at resolved ⊢
    dsimp only at resolved ⊢
    split at resolved
    next => cases resolved
    next x only =>
      cases resolved
      obtain ⟨y, member, same⟩ := kept.mem_columnSlots sound sound' (x := x) (by rw [only]; simp)
      obtain ⟨id, parent, -⟩ := Slot.unlabeled_eq_iff.1 same
      split
      next none => simp [none] at member
      next z only' =>
        rw [only', List.mem_singleton] at member
        subst member
        exact Or.inl ⟨y.ref, rfl, parent, id⟩
      next => exact Or.inr ⟨rfl, rfl⟩
    next => cases resolved

end Conserves
end Scope

namespace Analyzer

variable {s later : Scope} {functions : Functions} {limits : Limits}

theorem slotType_of_conserves (kept : later.Conserves s) {id : SlotId} {t : DataType}
    (typed : slotType ⟨s, functions, limits⟩ id = .ok t) :
    slotType ⟨later, functions, limits⟩ id = .ok t := by
  unfold slotType at typed ⊢
  cases found : s.slot? id with
  | none => simp [found] at typed
  | some x =>
    obtain ⟨y, found', same⟩ := kept.slot? found
    obtain ⟨-, -, ty, -⟩ := Slot.unlabeled_eq_iff.1 same
    simpa only [found, found', ty] using typed

/-- A rule that does not fail for a slot comes out the same. -/
theorem rule_of_conserves (kept : later.Conserves s) {kind : Kind} {children : List Expr}
    (clear : ∀ E, rule ⟨s, functions, limits⟩ kind children = .error E → E.isSlot = false) :
    rule ⟨later, functions, limits⟩ kind children = rule ⟨s, functions, limits⟩ kind children := by
  cases kind with
  | slot ref =>
    cases before : slotType ⟨s, functions, limits⟩ ref.slot with
    | ok t => exact (slotType_of_conserves kept before).trans before.symm
    | error E =>
      have other := clear E before
      rw [isSlot_of_slotType before] at other
      cases other
  | _ => rfl

theorem agreesBut_of_conserves (kept : later.Conserves s) :
    AgreesBut AnalysisError.isSlot ⟨s, functions, limits⟩ ⟨later, functions, limits⟩ where
  limits := fun _ _ _ => rfl
  rules := fun _ _ => rule_of_conserves kept

/-- A walk that does not fail for a slot comes out the same. -/
theorem walk_of_conserves (kept : later.Conserves s) {e : Expr} {depth : Nat}
    (clear : ∀ E, (walk ⟨s, functions, limits⟩ depth e).failure = some E → E.isSlot = false) :
    walk ⟨later, functions, limits⟩ depth e = walk ⟨s, functions, limits⟩ depth e :=
  walk_of_agreesBut (agreesBut_of_conserves kept) clear

end Analyzer

namespace Scope

/-- Calls after some point of a run that set neither the type nor the column of the slots that are
there by then do not change what analysis makes of a tree, types and refusals included, unless it
refused the tree for a slot. So trees whose slots are all there and typed come out the same. A name
that stood for a slot stands for it, or is unqualified and has become ambiguous. -/
theorem growth_conservative {number : UInt32} {before after : List Request}
    (spared : ∀ request ∈ after, request.Spares ((run { number } before).slots.map (·.id))) :
    let s : Scope := run { number } before
    let grown : Scope := s.run after
    (∀ functions limits e,
      (∀ E, (Analyzer.analyze ⟨s, functions, limits⟩ e).failure = some E → E.isSlot = false) →
        Analyzer.analyze ⟨grown, functions, limits⟩ e =
          Analyzer.analyze ⟨s, functions, limits⟩ e) ∧
    (∀ functions limits e,
      e.EachRef (fun ref => ∃ x, s.slot? ref.slot = some x ∧ x.ty.isValid = true) →
        Analyzer.analyze ⟨grown, functions, limits⟩ e =
          Analyzer.analyze ⟨s, functions, limits⟩ e) ∧
    ∀ qualifier name ref, s.resolveColumn qualifier name = .ok (.slot ref) →
      (∃ ref', grown.resolveColumn qualifier name = .ok (.slot ref') ∧ ref'.tuple = ref.tuple ∧
          ref'.slot = ref.slot) ∨
        qualifier = none ∧ grown.resolveColumn qualifier name = .error (.ambiguousColumn name) := by
  intro s grown
  have sound : s.Sound := (sound_empty number).run before
  have kept : grown.Conserves s := sound.run_conserves spared
  have alike : ∀ functions limits e,
      (∀ E, (Analyzer.analyze ⟨s, functions, limits⟩ e).failure = some E → E.isSlot = false) →
        Analyzer.analyze ⟨grown, functions, limits⟩ e = Analyzer.analyze ⟨s, functions, limits⟩ e :=
    fun functions limits e clear => Analyzer.walk_of_conserves kept clear
  refine ⟨alike, ?_, fun qualifier name ref => kept.resolveColumn sound (sound.run after)⟩
  intro functions limits e typed
  refine alike functions limits e fun E failed => ?_
  by_contra slot
  obtain ⟨n, inside, ref, reference, refused⟩ :=
    Analyzer.exists_ref_of_failure failed (by simpa using slot)
  obtain ⟨x, found, valid⟩ := typed n inside ref reference
  have accepted : Analyzer.slotType ⟨s, functions, limits⟩ ref.slot = .ok x.ty := by
    rw [Analyzer.slotType, found]
    exact if_pos valid
  rw [accepted] at refused
  cases refused

/-- A second table brings a column of the same name, and a first slot gets another label, a second
one a namesake. -/
theorem namesakes_leave_columns_alone :
    let users : Table := ⟨"users", [⟨"id", .int, 0⟩, ⟨"name", .string, 1⟩]⟩
    let orders : Table := ⟨"orders", [⟨"ID", .bigInt, 0⟩]⟩
    let s : Scope := run { number := 1 } [.register users (some "u")]
    let after : List Request := [.register orders none, .addSlot ⟨1, 0⟩,
      .set ⟨1, 3⟩ (.column ⟨"NAME", .double, 0⟩), .set ⟨1, 0⟩ (.label "key")]
    let e : Expr := .comparison .lt (.slot ⟨⟨1, 0⟩, ⟨1, 0⟩, some "u.id"⟩) (.literal (.int 5))
    let wrong : Expr := .and e (.slot ⟨⟨1, 0⟩, ⟨1, 1⟩, none⟩)
    (Analyzer.analyze { scope := s } e).failure = none ∧
      Analyzer.analyze { scope := s.run after } e = Analyzer.analyze { scope := s } e ∧
      (Analyzer.analyze { scope := s.run after } wrong).failure =
        some (.nonBooleanOperand "AND" .string) ∧
      (∃ ref, (s.run after).resolveColumn (some "U") "Name" = .ok (.slot ref) ∧
        ref.slot = ⟨1, 1⟩) ∧
      (∃ ref, s.resolveColumn none "id" = .ok (.slot ref)) ∧
      (s.run after).resolveColumn none "id" = .error (.ambiguousColumn "id") := by
  intro users orders s after e wrong
  have spared : ∀ request ∈ after, request.Spares (s.slots.map (·.id)) := by
    have ids : s.slots.map (·.id) = [⟨1, 0⟩, ⟨1, 1⟩] := by rfl
    rw [ids]
    simp [after, Request.Spares]
  have accepted : (Analyzer.analyze { scope := s } e).failure = none := by decide
  have refused : (Analyzer.analyze { scope := s } wrong).failure =
      some (.nonBooleanOperand "AND" .string) := by decide
  obtain ⟨alike, -, names⟩ := @growth_conservative 1 [.register users (some "u")] after spared
  have unqualified : s.resolveColumn none "id" = .ok (.slot ⟨⟨1, 0⟩, ⟨1, 0⟩, some "u.id"⟩) := by
    rfl
  have bearers : ((s.run after).columnSlots "id").length = 2 := by decide +kernel
  refine ⟨accepted, ?_, ?_, ?_, ⟨_, unqualified⟩, ?_⟩
  · refine alike _ _ e fun E failed => ?_
    rw [accepted] at failed
    cases failed
  · rw [alike _ _ wrong fun E failed => ?_, refused]
    rw [refused] at failed
    cases failed
    rfl
  · have resolved : s.resolveColumn (some "U") "Name" =
        .ok (.slot ⟨⟨1, 0⟩, ⟨1, 1⟩, some "u.name"⟩) := by rfl
    rcases names _ _ _ resolved with ⟨ref, resolved', -, slot⟩ | ⟨plain, -⟩
    · exact ⟨ref, resolved', slot⟩
    · cases plain
  · rcases names _ _ _ unqualified with ⟨ref, resolved, -⟩ | ⟨-, ambiguous⟩
    · unfold resolveColumn at resolved
      dsimp only at resolved
      split at resolved
      next => cases resolved
      next x only =>
        rw [show (s.run after).columnSlots "id" = [x] from only] at bearers
        cases bearers
      next => cases resolved
    · exact ambiguous

end Scope
end ScalarSql

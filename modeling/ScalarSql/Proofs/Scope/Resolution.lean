import ScalarSql.Proofs.Analysis.Success
import ScalarSql.Proofs.Catalog.Table
import ScalarSql.Proofs.Scope.Runs
import ScalarSql.Scope.Names

/-!
What a column name stands for in the course of a run. The table that goes by a name is the only one
that does, and among its slots those of the registered columns come first, so later calls cannot
take a name over: a registered column resolves to its own slot, at its declared type, as long as no
call sets the type or the column of that slot (`registered_column_resolves`).
-/
namespace ScalarSql
namespace Scope

variable {s : Scope}

/-! ### Names -/

theorem any_alike_iff {t : Tuple} {spelled : String} :
    t.reference?.any (Text.alike · spelled) = true ↔
      ∃ name, t.reference? = some name ∧ Text.alike name spelled = true := by
  cases t.reference? with
  | none => simp
  | some name => simp

/-- A name, however it is spelled, is that of one tuple, and finds it. -/
theorem Sound.findTuple?_eq_some (sound : s.Sound) {t : Tuple} {name spelled : String}
    (member : t ∈ s.tuples) (named : t.reference? = some name)
    (same : Text.alike spelled name = true) : s.findTuple? spelled = some t := by
  unfold findTuple?
  have fits : t.reference?.any (Text.alike · spelled) = true :=
    any_alike_iff.2 ⟨name, named, Text.alike_symm same⟩
  cases found : s.tuples.find? fun t => t.reference?.any (Text.alike · spelled) with
  | none => exact absurd fits (List.find?_eq_none.1 found t member)
  | some u =>
    have goes : u.reference?.any (Text.alike · spelled) = true :=
      List.find?_some (p := fun t : Tuple => t.reference?.any (Text.alike · spelled)) found
    obtain ⟨other, named', same'⟩ := any_alike_iff.1 goes
    by_cases equal : u = t
    · rw [equal]
    · have apart := sound.names_apart.forall (List.mem_of_find?_eq_some found) member equal
      have both := Text.alike_trans same' same
      rw [apart other named' name named] at both
      cases both

/-- The slot of a tuple that reads a column of the name, if no earlier one does. -/
theorem Sound.findSlot?_eq_some (sound : s.Sound) {t : Tuple} {reference name : String} {j : Nat}
    {y : Slot} (found : s.findTuple? reference = some t) (place : s.slots[j]? = some y)
    (parent : y.parent = t.id) (named : y.isColumn name = true)
    (first : ∀ i < j, ∀ x, s.slots[i]? = some x → x.parent = t.id → x.isColumn name = false) :
    s.findSlot? reference name = some y := by
  obtain ⟨bound, here⟩ := List.getElem?_eq_some_iff.1 place
  unfold findSlot?
  rw [found, Option.bind_some, sound.tupleSlots_eq_filter, List.find?_filter,
    List.find?_eq_some_iff_getElem]
  refine ⟨by simp [parent, named], j, bound, here, ?_⟩
  intro i before
  have earlier := first i before _ (List.getElem?_eq_getElem (Nat.lt_trans before bound))
  by_cases owner : s.slots[i].parent = t.id
  · simp [owner, earlier owner]
  · simp [owner]

/-! ### Slots in the course of a run -/

/-- The call sets neither the type nor the column of any of the slots. -/
def Request.Spares (ids : List SlotId) : Request → Prop
  | .set id (.type _) | .set id (.column _) => id ∉ ids
  | _ => True

/-- A slot changes only when it is set. -/
theorem Sound.perform_slot (sound : s.Sound) (request : Request) {j : Nat} {x : Slot}
    (found : s.slots[j]? = some x) :
    ∃ y, (s.perform request).2.slots[j]? = some y ∧
      (y = x ∨ ∃ setting, request = .set x.id setting ∧ y = setting.apply x) := by
  have bound : j < s.slots.length := (List.getElem?_eq_some_iff.1 found).1
  have behind : ∀ {added}, (s.slots ++ added)[j]? = some x := by
    intro added
    rw [List.getElem?_append_left bound, found]
  apply sound.perform_cases (motive := fun request result => ∃ y, result.2.slots[j]? = some y ∧
    (y = x ∨ ∃ setting, request = .set x.id setting ∧ y = setting.apply x))
  · intro _
    exact ⟨x, found, Or.inl rfl⟩
  · intro id grown success
    obtain ⟨-, -, rfl⟩ := createTuple_ok_iff.1 success
    exact ⟨x, found, Or.inl rfl⟩
  · intro tuple id grown success
    obtain ⟨-, -, -, rfl⟩ := newSlot_ok_iff.1 success
    exact ⟨x, behind, Or.inl rfl⟩
  · intro table aliasName grown columns _ opens
    obtain ⟨-, -, added, slots, -⟩ := opens.effect
    exact ⟨x, by rw [slots, behind], Or.inl rfl⟩
  · intro id setting
    rw [sound.updateSlot_eq]
    refine ⟨if x.id = id then setting.apply x else x, by simp [found], ?_⟩
    by_cases here : x.id = id
    · subst here
      exact Or.inr ⟨setting, rfl, if_pos rfl⟩
    · exact Or.inl (if_neg here)

variable {ids : List SlotId} {column : Column} {j : Nat} {x : Slot}

/-- A call that spares a slot changes nothing but its label. -/
theorem Sound.perform_spared (sound : s.Sound) {request : Request} (spared : request.Spares ids)
    (found : s.slots[j]? = some x) (spare : x.id ∈ ids) :
    ∃ y, (s.perform request).2.slots[j]? = some y ∧ y.unlabeled = x.unlabeled := by
  obtain ⟨y, found', rfl | ⟨setting, rfl, rfl⟩⟩ := sound.perform_slot request found
  · exact ⟨y, found', rfl⟩
  · cases setting with
    | type ty => exact absurd spare spared
    | column other => exact absurd spare spared
    | label text => exact ⟨_, found', rfl⟩

theorem Sound.run_spared (sound : s.Sound) {requests : List Request}
    (spared : ∀ request ∈ requests, request.Spares ids) (found : s.slots[j]? = some x)
    (spare : x.id ∈ ids) :
    ∃ y, (s.run requests).slots[j]? = some y ∧ y.unlabeled = x.unlabeled := by
  induction requests generalizing s x with
  | nil => exact ⟨x, found, rfl⟩
  | cons request rest ih =>
    obtain ⟨y, found', same⟩ :=
      sound.perform_spared (spared request List.mem_cons_self) found spare
    have id : y.id = x.id := (Slot.unlabeled_eq_iff.1 same).1
    obtain ⟨z, last, same'⟩ := ih (sound.perform request)
      (fun other member => spared other (List.mem_cons_of_mem _ member)) found' (id ▸ spare)
    exact ⟨z, last, same'.trans same⟩

/-- What is in a scope is in every extension of it, in the same place. -/
theorem Extends.tuple_at {later : Scope} (extension : later.Extends s) {i : Nat} {t : Tuple}
    (found : (s.tuples.map Tuple.emptied)[i]? = some t) :
    ∃ u, later.tuples[i]? = some u ∧ u.emptied = t :=
  Option.map_eq_some_iff.1
    (List.getElem?_map.symm.trans (getElem?_of_isPrefix extension.tuples found))

theorem Extends.parent_at {later : Scope} (extension : later.Extends s) {x y : Slot}
    (found : s.slots[j]? = some x) (found' : later.slots[j]? = some y) : y.parent = x.parent := by
  have there : (s.slots.map fun x => (x.id, x.parent))[j]? = some (x.id, x.parent) := by
    rw [List.getElem?_map, found, Option.map_some]
  have kept := getElem?_of_isPrefix extension.slots there
  rw [List.getElem?_map, found', Option.map_some] at kept
  exact congrArg Prod.snd (Option.some.inj kept)

/-! ### Registered columns -/

theorem exists_getElem?_of_forall₂ {α β : Type} {R : α → β → Prop} {as : List α} {bs : List β}
    (related : List.Forall₂ R as bs) {i : Nat} {a : α} (found : as[i]? = some a) :
    ∃ b, bs[i]? = some b ∧ R a b := by
  induction related generalizing i with
  | nil => cases found
  | cons first _ ih =>
    cases i with
    | zero =>
      cases found
      exact ⟨_, rfl, first⟩
    | succ i => exact ih found

section Registered

variable {grown : Scope} {table : Table} {aliasName : Option String} {id : TupleId}
  {after : List Request}

/-- The tuple of a registered table stays what its name finds. -/
theorem Sound.findTuple?_registered (sound : s.Sound) (after : List Request)
    (success : s.register table aliasName = .ok (id, grown)) {reference : String}
    (called : Text.alike reference (aliasName.getD table.name) = true) :
    ∃ t, (grown.run after).findTuple? reference = some t ∧ t.id = id := by
  have later := (sound.register success).run after
  have extension := (sound.register success).run_extends after
  obtain ⟨rfl, opens⟩ := register_ok_iff.1 success
  obtain ⟨-, opened, -⟩ := opens.effect
  have last : (grown.tuples.map Tuple.emptied)[s.tuples.length]? =
      some ⟨s.nextTuple, some table, aliasName, []⟩ := by
    rw [opened, ← List.length_map (f := Tuple.emptied), List.getElem?_concat_length]
  obtain ⟨t, found, made⟩ := extension.tuple_at last
  have named : t.reference? = some (aliasName.getD table.name) := by
    rw [← reference?_registered s.nextTuple, ← made]
    rfl
  refine ⟨t, later.findTuple?_eq_some (List.mem_of_getElem? found) named called, ?_⟩
  exact congrArg Tuple.id made

/-- The slots made for the columns stay in their places, bound to them. -/
theorem Sound.made_reads (sound : s.Sound)
    (success : s.register table aliasName = .ok (id, grown))
    (spared : ∀ request ∈ after, request.Spares ((grown.madeSince s).map (·.id))) {i : Nat}
    (place : table.columns[i]? = some column) :
    ∃ x y, (grown.madeSince s)[i]? = some x ∧
      (grown.run after).slots[s.slots.length + i]? = some y ∧ y.id = x.id ∧ y.Reads id column := by
  obtain ⟨rfl, opens⟩ := register_ok_iff.1 success
  obtain ⟨x, inside, read⟩ := exists_getElem?_of_forall₂ (sound.opened_slots opens).2 place
  have found : grown.slots[s.slots.length + i]? = some x := by
    rw [← List.getElem?_drop]
    exact inside
  have spare : x.id ∈ (grown.madeSince s).map (·.id) :=
    List.mem_map_of_mem (List.mem_of_getElem? inside)
  obtain ⟨y, found', same⟩ := (sound.register success).run_spared spared found spare
  exact ⟨x, y, inside, found', (Slot.unlabeled_eq_iff.1 same).1, read.of_unlabeled same⟩

/-- No slot in front of them belongs to the tuple. -/
theorem Sound.parent_ne_registered (sound : s.Sound)
    (success : s.register table aliasName = .ok (id, grown)) {y : Slot}
    (before : j < s.slots.length) (found : (grown.run after).slots[j]? = some y) :
    y.parent ≠ id := by
  obtain ⟨rfl, opens⟩ := register_ok_iff.1 success
  obtain ⟨-, -, added, slots, -⟩ := opens.effect
  have there : grown.slots[j]? = some s.slots[j] := by
    rw [slots, List.getElem?_append_left before, List.getElem?_eq_getElem before]
  rw [((sound.register success).run_extends after).parent_at there found]
  exact sound.parent_ne_next opens.fits (List.getElem_mem before)

/-- A registered column is found under every spelling of its name and of the name of its table. -/
theorem Sound.findSlot?_registered (sound : s.Sound) (distinct : table.Sound)
    (success : s.register table aliasName = .ok (id, grown))
    (spared : ∀ request ∈ after, request.Spares ((grown.madeSince s).map (·.id))) {i : Nat}
    (place : table.columns[i]? = some column) {reference name : String}
    (called : Text.alike reference (aliasName.getD table.name) = true)
    (named : Text.alike name column.name = true) :
    ∃ x y, (grown.madeSince s)[i]? = some x ∧ y.id = x.id ∧ y.Reads id column ∧
      (grown.run after).slot? y.id = some y ∧
      (grown.run after).findSlot? reference name = some y := by
  have later := (sound.register success).run after
  obtain ⟨t, found, rfl⟩ := sound.findTuple?_registered after success called
  obtain ⟨x, y, made, there, same, reads⟩ := sound.made_reads success spared place
  have member := List.mem_of_getElem? there
  refine ⟨x, y, made, same, reads, later.slot?_eq_some_iff.2 ⟨member, rfl⟩, ?_⟩
  apply later.findSlot?_eq_some found there reads.parent
  · rw [reads.isColumn_eq]
    exact Text.alike_symm named
  · intro j before z found' owner
    by_cases old : j < s.slots.length
    · exact absurd owner (sound.parent_ne_registered success old found')
    · -- the slot is one of those made for earlier columns, whose names are others
      obtain ⟨k, rfl⟩ := Nat.exists_eq_add_of_le (Nat.le_of_not_lt old)
      have less : k < i := Nat.lt_of_add_lt_add_left before
      obtain ⟨bound, here⟩ := List.getElem?_eq_some_iff.1 place
      have bound' : k < table.columns.length := Nat.lt_trans less bound
      obtain ⟨-, z', -, there', -, reads'⟩ := sound.made_reads success spared
        (List.getElem?_eq_getElem bound')
      obtain rfl : z = z' := Option.some.inj (found'.symm.trans there')
      have apart := List.pairwise_iff_getElem.1 distinct.names_apart k i bound' bound less
      rw [reads'.isColumn_eq]
      apply Bool.eq_false_iff.2
      intro alike
      have both := Text.alike_trans alike named
      rw [here] at apart
      rw [apart] at both
      cases both

end Registered

theorem analyze_slot {a : Analyzer} {ref : SlotRef} {y : Slot} (deep : 1 ≤ a.limits.maxDepth)
    (found : a.scope.slot? ref.slot = some y) (typed : y.ty.isValid = true) :
    a.analyze (.slot ref) = ⟨.node (.slot ref) [] y.ty, [], none⟩ := by
  have within : a.limits.violation? 1 0 = none :=
    Limits.violation?_eq_none_iff.2 ⟨deep, Nat.zero_le _⟩
  have rule : a.rule (.slot ref) [] = .ok y.ty := by
    show a.slotType ref.slot = _
    rw [Analyzer.slotType, found]
    exact if_pos typed
  unfold Analyzer.analyze Expr.slot Expr.untyped
  rw [Analyzer.walk_node, List.length_nil, within]
  simp only [Analyzer.walkAll_nil, rule, List.nil_append, Kind.calls]

/-- Whatever is called on a scope before and after a table is registered in it, as long as no call
sets the type or the column of the slots that the registration made: a column of the table, under
every spelling of its name and of the name of the table, stands for the slot made for it, belongs to
the tuple of the table and to no other, and has its declared type. -/
theorem registered_column_resolves {number : UInt32} {before after : List Request}
    {tableName : String} {columns : List (String × DataType)} {table : Table}
    {aliasName : Option String} {id : TupleId} {grown : Scope}
    (declared : Table.declare tableName columns = .ok table)
    (success : (run { number } before).register table aliasName = .ok (id, grown))
    (spared : ∀ request ∈ after,
      request.Spares ((grown.madeSince (run { number } before)).map (·.id)))
    {i : Nat} {column : Column} (place : table.columns[i]? = some column)
    {reference name : String} (called : Text.alike reference (aliasName.getD table.name) = true)
    (named : Text.alike name column.name = true) :
    ∃ x ref, (grown.madeSince (run { number } before))[i]? = some x ∧
      (grown.run after).resolveColumn (some reference) name = .ok (.slot ref) ∧
      ref.slot = x.id ∧ ref.tuple = id ∧
      (∀ tuple, (Expr.slot ref).boundBy [tuple] = true ↔ tuple = id) ∧
      ∀ functions limits, 1 ≤ limits.maxDepth →
        Analyzer.analyze ⟨grown.run after, functions, limits⟩ (.slot ref) =
          ⟨.node (.slot ref) [] column.ty, [], none⟩ := by
  have sound : (run { number } before).Sound := (sound_empty number).run before
  have distinct := (Table.declare_sound declared).1
  obtain ⟨t, found, -⟩ := sound.findTuple?_registered after success called
  obtain ⟨x, y, made, same, reads, there, resolved⟩ :=
    sound.findSlot?_registered distinct success spared place called named
  refine ⟨x, y.ref, made, ?_, same, reads.parent, ?_, ?_⟩
  · simp [resolveColumn, found, resolved]
  · intro tuple
    simp only [Expr.slot, Expr.untyped, Expr.boundBy, Slot.ref, reads.parent, List.mem_singleton,
      decide_eq_true_eq]
    exact eq_comm
  · intro functions limits deep
    have typed : y.ty.isValid = true := by
      rw [reads.ty]
      exact (distinct.types column (List.mem_of_getElem? place)).1
    rw [analyze_slot deep there typed, reads.ty]

/-- Another slot of the tuple takes the name of a column, and other tables are registered, one of
them under a name that is taken. -/
theorem column_resolves_beside_namesake :
    let users : Table := ⟨"users", [⟨"id", .int, 0⟩, ⟨"Name", .string, 1⟩]⟩
    let s : Scope := run { number := 1 } [.createTuple]
    let grown : Scope := (s.perform (.register users (some "U"))).2
    let after : List Request :=
      [.addSlot ⟨1, 1⟩, .set ⟨1, 2⟩ (.column ⟨"name", .double, 0⟩), .set ⟨1, 1⟩ (.label "n"),
        .register users (some "u"), .register users none]
    ∃ ref, (grown.run after).resolveColumn (some "u") "NAME" = .ok (.slot ref) ∧
      ref.slot = ⟨1, 1⟩ ∧ ref.tuple = ⟨1, 1⟩ ∧
      Analyzer.analyze ⟨grown.run after, Builtin.functions, { maxDepth := 1 }⟩ (.slot ref) =
        ⟨.node (.slot ref) [] .string, [], none⟩ := by
  intro users s grown after
  have declared : Table.declare "users" [("id", .int), ("Name", .string)] = .ok users := by rfl
  have success : s.register users (some "U") = .ok (⟨1, 1⟩, grown) := by rfl
  have spared : ∀ request ∈ after, request.Spares ((grown.madeSince s).map (·.id)) := by
    have made : (grown.madeSince s).map (·.id) = [⟨1, 0⟩, ⟨1, 1⟩] := by rfl
    rw [made]
    simp [after, Request.Spares]
  have place : users.columns[1]? = some ⟨"Name", .string, 1⟩ := by rfl
  obtain ⟨x, ref, made, resolved, slot, tuple, -, analyzed⟩ :=
    registered_column_resolves declared success spared place (by decide : Text.alike "u" "U" = true)
      (by decide : Text.alike "NAME" "Name" = true)
  have second : x.id = ⟨1, 1⟩ := by
    cases made
    rfl
  exact ⟨ref, resolved, slot.trans second, tuple, analyzed _ _ (by decide)⟩

end Scope
end ScalarSql

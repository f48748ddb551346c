import ScalarSql.Proofs.Scope.Extension
import Mathlib.Data.List.Perm.Basic

/-!
Whole runs of calls. Each call keeps a scope sound, extends it by what it hands out, and changes a
slot only when told to; so does every run on one scope. In a session, where scopes are opened and
called in any order, all scopes are sound at all times and the ids that were ever handed out are
those of the tuples and slots that are there, each handed out once (`run_consistent`).
-/
namespace ScalarSql
namespace Scope

variable {s : Scope}

/-- What a call can do. A registration opens a tuple with all columns of the table, or, if ids run
out, with the first of them. -/
theorem Sound.perform_cases {motive : Request → Handed × Scope → Prop} (sound : s.Sound)
    (request : Request)
    (refused : ∀ request, motive request ({}, s))
    (created : ∀ id grown, s.createTuple = .ok (id, grown) →
      motive .createTuple ({ tuples := [id] }, grown))
    (added : ∀ tuple id grown, s.addSlot tuple = .ok (id, grown) →
      motive (.addSlot tuple) ({ slots := [id] }, grown))
    (opened : ∀ table aliasName grown columns, columns <+: table.columns →
      s.Opens grown table aliasName columns →
      motive (.register table aliasName) (grown.idsSince s, grown))
    (set : ∀ id setting, motive (.set id setting) ({}, s.updateSlot id setting.apply)) :
    motive request (s.perform request) := by
  unfold Scope.perform
  cases request with
  | createTuple =>
    dsimp only
    split
    next id grown success => exact created id grown success
    next => exact refused _
  | addSlot tuple =>
    dsimp only
    split
    next id grown success => exact added tuple id grown success
    next => exact refused _
  | register table aliasName =>
    obtain ⟨e, failed⟩ | ⟨columns, grown, starts, opens, ⟨-, made⟩ | ⟨-, cut⟩⟩ :=
      s.registration_cases table aliasName
    · simp only [failed, idsSince_self]
      exact refused _
    · simp only [made, ← sound.idsSince_opened opens]
      exact opened table aliasName grown columns starts opens
    · simp only [cut]
      exact opened table aliasName grown columns starts opens
  | set id setting => exact set id setting

theorem Sound.set (sound : s.Sound) (id : SlotId) (setting : Setting) :
    (s.updateSlot id setting.apply).Sound :=
  sound.updateSlot id setting.apply_id setting.apply_parent

theorem Sound.perform (sound : s.Sound) (request : Request) : (s.perform request).2.Sound := by
  apply sound.perform_cases (motive := fun _ result => result.2.Sound)
  · intro _
    exact sound
  · intro id grown success
    exact sound.createTuple success
  · intro tuple id grown success
    exact sound.addSlot success
  · intro table aliasName grown columns _ opens
    exact sound.opens opens
  · intro id setting
    exact sound.set id setting

theorem Sound.run (sound : s.Sound) (requests : List Request) : (s.run requests).Sound := by
  induction requests generalizing s with
  | nil => exact sound
  | cons request rest ih => exact ih (sound.perform request)

/-! ### What stays -/

/-- A call either adds slots behind all others or sets one slot. -/
theorem Sound.perform_extends (sound : s.Sound) (request : Request) :
    (s.perform request).2.Extends s := by
  apply sound.perform_cases (motive := fun _ result => result.2.Extends s)
  · intro _
    exact Extends.refl s
  · intro id grown success
    obtain ⟨-, rfl, rfl⟩ := createTuple_ok_iff.1 success
    exact Extends.of_append rfl List.map_append (List.append_nil _).symm
  · intro tuple id grown success
    obtain ⟨-, -, rfl, rfl⟩ := newSlot_ok_iff.1 success
    exact Extends.of_append rfl ((map_emptied_modify _ _ _).trans (List.append_nil _).symm) rfl
  · intro table aliasName grown columns _ opens
    exact opens.extends_scope
  · intro id setting
    rw [sound.updateSlot_eq]
    refine ⟨rfl, List.prefix_refl _, ?_⟩
    have same : (s.slots.map fun x => if x.id = id then setting.apply x else x).map
        (fun x => (x.id, x.parent)) = s.slots.map fun x => (x.id, x.parent) := by
      rw [List.map_map]
      refine List.map_congr_left fun x _ => ?_
      by_cases here : x.id = id
      · simp [here]
      · simp [here]
    exact ⟨[], by rw [List.append_nil, same]⟩

theorem Sound.run_extends (sound : s.Sound) (requests : List Request) :
    (s.run requests).Extends s := by
  induction requests generalizing s with
  | nil => exact Extends.refl s
  | cons request rest ih =>
    exact (ih (sound.perform request)).trans (sound.perform_extends request)

/-- The ids after a call are those before it, and behind them those that it handed out. -/
theorem Sound.perform_ids (sound : s.Sound) (request : Request) :
    (s.perform request).2.tuples.map (·.id) =
        s.tuples.map (·.id) ++ (s.perform request).1.tuples ∧
      (s.perform request).2.slots.map (·.id) =
        s.slots.map (·.id) ++ (s.perform request).1.slots := by
  apply sound.perform_cases (motive := fun _ result =>
    result.2.tuples.map (·.id) = s.tuples.map (·.id) ++ result.1.tuples ∧
      result.2.slots.map (·.id) = s.slots.map (·.id) ++ result.1.slots)
  · intro _
    exact ⟨(List.append_nil _).symm, (List.append_nil _).symm⟩
  · intro id grown success
    obtain ⟨-, rfl, rfl⟩ := createTuple_ok_iff.1 success
    exact ⟨List.map_append, (List.append_nil _).symm⟩
  · intro tuple id grown success
    obtain ⟨-, -, rfl, rfl⟩ := newSlot_ok_iff.1 success
    refine ⟨?_, List.map_append⟩
    rw [← map_id_emptied, map_emptied_modify, map_id_emptied]
    exact (List.append_nil _).symm
  · intro table aliasName grown columns _ opens
    exact opens.extends_scope.ids
  · intro id setting
    rw [sound.updateSlot_eq]
    refine ⟨(List.append_nil _).symm, ?_⟩
    simp only [List.map_map, List.append_nil]
    refine List.map_congr_left fun x _ => ?_
    by_cases here : x.id = id
    · simp [here]
    · simp [here]

end Scope

/-! ### Sessions -/

namespace Pool

/-- Scopes are sound and are numbered from 1. -/
def Sound (p : Pool) : Prop :=
  ∀ i s, p.scopes[i]? = some s → s.number = UInt32.ofNat (i + 1) ∧ s.Sound

/-- Every scope is still there, under its number, and has kept what it had. -/
def Extends (later p : Pool) : Prop :=
  ∀ n s, p.scope? n = some s → ∃ t, later.scope? n = some t ∧ t.Extends s

def tupleIds (p : Pool) : List TupleId := p.scopes.flatMap fun s => s.tuples.map (·.id)

def slotIds (p : Pool) : List SlotId := p.scopes.flatMap fun s => s.slots.map (·.id)

variable {p : Pool}

theorem Extends.refl (p : Pool) : p.Extends p := fun _ s found => ⟨s, found, .refl s⟩

theorem Extends.trans {q r : Pool} (later : r.Extends q) (earlier : q.Extends p) :
    r.Extends p := by
  intro n s found
  obtain ⟨t, found', first⟩ := earlier n s found
  obtain ⟨u, found'', second⟩ := later n t found'
  exact ⟨u, found'', second.trans first⟩

theorem scope?_eq_some_iff {n : Nat} {s : Scope} :
    p.scope? n = some s ↔ ∃ i, n = i + 1 ∧ p.scopes[i]? = some s := by
  cases n with
  | zero => simp [scope?]
  | succ i => simp [scope?]

/-- What a call on a session can do. -/
theorem perform_cases {motive : Handed × Pool → Prop} (p : Pool) (request : Request)
    (idle : motive ({}, p))
    (opened : motive ({}, ⟨p.scopes ++ [{ number := UInt32.ofNat (p.scopes.length + 1) }]⟩))
    (called : ∀ i s request, p.scopes[i]? = some s →
      motive ((s.perform request).1, ⟨p.scopes.set i (s.perform request).2⟩)) :
    motive (p.perform request) := by
  unfold perform
  cases request with
  | openScope => exact opened
  | call number request =>
    dsimp only
    split
    next s found =>
      obtain ⟨i, rfl, place⟩ := scope?_eq_some_iff.1 found
      exact called i s request place
    next => exact idle

theorem Sound.perform (sound : p.Sound) (request : Request) : (p.perform request).2.Sound := by
  apply perform_cases (motive := fun result => result.2.Sound)
  · exact sound
  · intro i s found
    rcases Nat.lt_trichotomy i p.scopes.length with before | last | beyond
    · rw [List.getElem?_append_left before] at found
      exact sound i s found
    · subst last
      rw [List.getElem?_concat_length] at found
      cases found
      exact ⟨rfl, Scope.sound_empty _⟩
    · have bound := (List.getElem?_eq_some_iff.1 found).1
      simp only [List.length_append, List.length_singleton] at bound
      omega
  · intro i s request found j t changed
    obtain ⟨number, kept⟩ := sound i s found
    rw [List.getElem?_set] at changed
    by_cases here : i = j
    · subst here
      have bound := (List.getElem?_eq_some_iff.1 found).1
      rw [if_pos rfl, if_pos bound] at changed
      cases changed
      exact ⟨(kept.perform_extends request).number.trans number, kept.perform request⟩
    · rw [if_neg here] at changed
      exact sound j t changed

theorem Sound.perform_extends (sound : p.Sound) (request : Request) :
    (p.perform request).2.Extends p := by
  apply perform_cases (motive := fun result => result.2.Extends p)
  · exact Extends.refl p
  · intro n s found
    obtain ⟨i, rfl, place⟩ := scope?_eq_some_iff.1 found
    have bound := (List.getElem?_eq_some_iff.1 place).1
    refine ⟨s, scope?_eq_some_iff.2 ⟨i, rfl, ?_⟩, .refl s⟩
    rw [List.getElem?_append_left bound, place]
  · intro i s request found n t inside
    obtain ⟨j, rfl, place⟩ := scope?_eq_some_iff.1 inside
    by_cases here : i = j
    · subst here
      obtain rfl : s = t := Option.some.inj (found.symm.trans place)
      have bound := (List.getElem?_eq_some_iff.1 place).1
      refine ⟨(s.perform request).2, scope?_eq_some_iff.2 ⟨i, rfl, ?_⟩,
        (sound i s place).2.perform_extends request⟩
      rw [List.getElem?_set_self bound]
    · refine ⟨t, scope?_eq_some_iff.2 ⟨j, rfl, ?_⟩, .refl t⟩
      rw [List.getElem?_set_ne here, place]

theorem Sound.run (sound : p.Sound) (requests : List Request) : (p.run requests).2.Sound := by
  induction requests generalizing p with
  | nil => exact sound
  | cons request rest ih => exact ih (sound.perform request)

theorem Sound.run_extends (sound : p.Sound) (requests : List Request) :
    (p.run requests).2.Extends p := by
  induction requests generalizing p with
  | nil => exact Extends.refl p
  | cons request rest ih =>
    exact (ih (sound.perform request)).trans (sound.perform_extends request)

/-- What one item of a list comes to hold in addition, the whole list does. -/
theorem flatMap_set_perm {α β : Type} {f : α → List β} {l : List α} {i : Nat} {a b : α}
    {more : List β} (found : l[i]? = some a) (grown : f b = f a ++ more) :
    ((l.set i b).flatMap f).Perm (l.flatMap f ++ more) := by
  induction l generalizing i with
  | nil => cases found
  | cons c l ih =>
    cases i with
    | zero =>
      obtain rfl : c = a := Option.some.inj found
      rw [List.set_cons_zero, List.flatMap_cons, List.flatMap_cons, grown, List.append_assoc,
        List.append_assoc]
      exact List.Perm.append_left _ List.perm_append_comm
    | succ i =>
      rw [List.set_cons_succ, List.flatMap_cons, List.flatMap_cons, List.append_assoc]
      exact (ih found).append_left _

theorem Sound.perform_ids (sound : p.Sound) (request : Request) :
    (p.perform request).2.tupleIds.Perm (p.tupleIds ++ (p.perform request).1.tuples) ∧
      (p.perform request).2.slotIds.Perm (p.slotIds ++ (p.perform request).1.slots) := by
  apply perform_cases (motive := fun result =>
    result.2.tupleIds.Perm (p.tupleIds ++ result.1.tuples) ∧
      result.2.slotIds.Perm (p.slotIds ++ result.1.slots))
  · simp
  · simp [tupleIds, slotIds]
  · intro i s request found
    obtain ⟨tuples, slots⟩ := (sound i s found).2.perform_ids request
    exact ⟨flatMap_set_perm found tuples, flatMap_set_perm found slots⟩

theorem Sound.run_ids (sound : p.Sound) (requests : List Request) :
    (p.run requests).2.tupleIds.Perm (p.tupleIds ++ (p.run requests).1.tuples) ∧
      (p.run requests).2.slotIds.Perm (p.slotIds ++ (p.run requests).1.slots) := by
  induction requests generalizing p with
  | nil => simp [Pool.run]
  | cons request rest ih =>
    obtain ⟨tuples, slots⟩ := sound.perform_ids request
    obtain ⟨tuples', slots'⟩ := ih (sound.perform request)
    simp only [run_cons, Handed.append, ← List.append_assoc]
    exact ⟨tuples'.trans (tuples.append_right _), slots'.trans (slots.append_right _)⟩

/-- Scopes have different numbers as long as the numbers last. -/
theorem Sound.numbers_apart (sound : p.Sound) (few : p.scopes.length < UInt32.size) :
    p.scopes.Pairwise fun s t => s.number ≠ t.number := by
  rw [List.pairwise_iff_getElem]
  intro i j left right less same
  have first := (sound i _ (List.getElem?_eq_getElem left)).1
  have second := (sound j _ (List.getElem?_eq_getElem right)).1
  rw [first, second] at same
  have fits : ∀ {k}, k < p.scopes.length → k + 1 < UInt32.size := fun bound =>
    Nat.lt_of_le_of_lt bound few
  have numbers := congrArg UInt32.toNat same
  rw [UInt32.toNat_ofNat_of_lt' (fits left), UInt32.toNat_ofNat_of_lt' (fits right)] at numbers
  omega

/-- No id is in two scopes or twice in one. -/
theorem nodup_ids {κ : Type} {ids : Scope → List κ} (scope : κ → UInt32) (sound : p.Sound)
    (few : p.scopes.length < UInt32.size) (own : ∀ s ∈ p.scopes, ∀ id ∈ ids s, scope id = s.number)
    (each : ∀ s ∈ p.scopes, (ids s).Nodup) : (p.scopes.flatMap ids).Nodup := by
  rw [List.nodup_flatMap]
  refine ⟨each, ?_⟩
  refine (sound.numbers_apart few).imp_of_mem ?_
  intro s t left right apart id inside inside'
  exact apart ((own s left id inside).symm.trans (own t right id inside'))

theorem Sound.scope_sound (sound : p.Sound) {s : Scope} (member : s ∈ p.scopes) : s.Sound := by
  obtain ⟨i, found⟩ := List.mem_iff_getElem?.1 member
  exact (sound i s found).2

theorem Sound.nodup_tupleIds (sound : p.Sound) (few : p.scopes.length < UInt32.size) :
    p.tupleIds.Nodup := by
  refine nodup_ids (·.scope) sound few ?_ fun s member => (sound.scope_sound member).nodup_tuple_ids
  intro s member id inside
  obtain ⟨t, present, rfl⟩ := List.mem_map.1 inside
  exact (sound.scope_sound member).tuples.scope_eq present

theorem Sound.nodup_slotIds (sound : p.Sound) (few : p.scopes.length < UInt32.size) :
    p.slotIds.Nodup := by
  refine nodup_ids (·.scope) sound few ?_ fun s member => (sound.scope_sound member).nodup_slot_ids
  intro s member id inside
  obtain ⟨x, present, rfl⟩ := List.mem_map.1 inside
  exact (sound.scope_sound member).slots.scope_eq present

/-- After any run of calls from the start of a session, every scope is consistent, no id was handed
out twice, the ids handed out are those of the tuples and slots that are there, and what was there
at any point of the run still is, as it was made. -/
theorem run_consistent (requests : List Request)
    (few : (run {} requests).2.scopes.length < UInt32.size) :
    (∀ s ∈ (run {} requests).2.scopes, s.Consistent) ∧
      ((run {} requests).1.tuples.Nodup ∧ (run {} requests).1.slots.Nodup) ∧
      ((run {} requests).1.tuples.Perm (run {} requests).2.tupleIds ∧
        (run {} requests).1.slots.Perm (run {} requests).2.slotIds) ∧
      ∀ before after, requests = before ++ after →
        (run {} requests).2.Extends (run {} before).2 := by
  have start : Sound {} := by
    intro i s found
    cases found
  have sound := start.run requests
  obtain ⟨tuples, slots⟩ := start.run_ids requests
  refine ⟨fun s member => (sound.scope_sound member).consistent, ⟨?_, ?_⟩, ⟨?_, ?_⟩, ?_⟩
  · exact tuples.nodup_iff.1 (sound.nodup_tupleIds few)
  · exact slots.nodup_iff.1 (sound.nodup_slotIds few)
  · exact tuples.symm
  · exact slots.symm
  · rintro before after rfl
    rw [run_append]
    exact (start.run before).run_extends after

/-- Two scopes, a name that is taken and an id of the other scope. -/
theorem two_scopes_consistent :
    let users : Table := ⟨"users", [⟨"id", .int, 0⟩, ⟨"name", .string, 1⟩]⟩
    let requests : List Request :=
      [.openScope, .call 1 (.register users none), .openScope, .call 2 (.register users (some "u")),
        .call 1 (.register users (some "USERS")), .call 1 (.addSlot ⟨2, 0⟩), .call 1 .createTuple,
        .call 1 (.addSlot ⟨1, 1⟩), .call 1 (.addSlot ⟨1, 0⟩), .call 1 (.set ⟨1, 2⟩ (.type .double))]
    (run {} requests).2.scopes.length < UInt32.size ∧
      (run {} requests).1.tuples = [⟨1, 0⟩, ⟨2, 0⟩, ⟨1, 1⟩] ∧
      (run {} requests).1.slots = [⟨1, 0⟩, ⟨1, 1⟩, ⟨2, 0⟩, ⟨2, 1⟩, ⟨1, 2⟩, ⟨1, 3⟩] ∧
      (run {} requests).1.slots.Perm (run {} requests).2.slotIds ∧
      ∀ s ∈ (run {} requests).2.scopes, s.Consistent := by
  intro users requests
  have few : (run {} requests).2.scopes.length < UInt32.size := by decide +kernel
  have consistent := run_consistent requests few
  exact ⟨few, by decide +kernel, by decide +kernel, consistent.2.2.1.2, consistent.1⟩

end Pool
end ScalarSql

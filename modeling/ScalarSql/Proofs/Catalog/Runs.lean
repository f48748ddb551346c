import ScalarSql.Catalog.Basic
import ScalarSql.Proofs.Catalog.Table
import ScalarSql.Proofs.Text.ByteOrder
import Mathlib.Data.List.Induction
import Mathlib.Data.List.Perm.Basic

/-!
Whole runs of declarations, with refused ones among them. A catalog is a hash table: it may hold its
entries in any order, and in another one after each call. What a run keeps is which tables the
catalog holds (`Holds`), each under the lower case of its name and no two under one key. All that is
read from a catalog comes from there, so the order of the entries shows nowhere.
-/
namespace ScalarSql

/-- A call that asks for a new table. -/
structure Declaration where
  name : String
  columns : List (String × DataType)
  deriving DecidableEq

abbrev Answer := Except CatalogError Table

namespace Catalog

variable {c other : Catalog} {held : List Table}

/-- The catalog has these tables, in whatever order, and nothing else. -/
structure Holds (c : Catalog) (held : List Table) : Prop where
  entries : c.entries.Perm (held.map fun t => (Text.lower t.name, t))
  names_apart : held.Pairwise fun t u => Text.lower t.name ≠ Text.lower u.name

theorem holds_empty : Holds {} [] := ⟨.nil, .nil⟩

theorem mem_entries_of_table? {name : String} {t : Table} (found : c.table? name = some t) :
    (Text.lower name, t) ∈ c.entries := by
  obtain ⟨before, after, entries, -⟩ := List.lookup_eq_some_iff.1 found
  simp [entries]

namespace Holds

theorem of_perm (holds : c.Holds held) (perm : other.entries.Perm c.entries) :
    other.Holds held :=
  ⟨perm.trans holds.entries, holds.names_apart⟩

theorem eq_of_lower_eq (holds : c.Holds held) {t u : Table} (left : t ∈ held) (right : u ∈ held)
    (same : Text.lower t.name = Text.lower u.name) : t = u := by
  have symm : Std.Symm fun t u : Table => Text.lower t.name ≠ Text.lower u.name :=
    ⟨fun _ _ => Ne.symm⟩
  by_contra different
  exact holds.names_apart.forall left right different same

theorem mem_entries_iff (holds : c.Holds held) {key : String} {t : Table} :
    (key, t) ∈ c.entries ↔ t ∈ held ∧ Text.lower t.name = key := by
  rw [holds.entries.mem_iff]
  simp

theorem table?_eq_some_iff (holds : c.Holds held) {name : String} {t : Table} :
    c.table? name = some t ↔ t ∈ held ∧ Text.lower t.name = Text.lower name := by
  refine ⟨fun found => holds.mem_entries_iff.1 (mem_entries_of_table? found), ?_⟩
  rintro ⟨member, named⟩
  cases found : c.table? name with
  | none =>
    have missing := List.lookup_eq_none_iff.1 found _ (holds.mem_entries_iff.2 ⟨member, named⟩)
    simp at missing
  | some u =>
    obtain ⟨member', named'⟩ := holds.mem_entries_iff.1 (mem_entries_of_table? found)
    rw [holds.eq_of_lower_eq member' member (named'.trans named.symm)]

theorem table?_eq_none_iff (holds : c.Holds held) {name : String} :
    c.table? name = none ↔ ∀ t ∈ held, Text.lower t.name ≠ Text.lower name := by
  rw [Option.eq_none_iff_forall_ne_some]
  simp [holds.table?_eq_some_iff]

theorem tables_perm (holds : c.Holds held) : c.tables.Perm held := by
  have listed := holds.entries.map Prod.snd
  rw [List.map_map, show Prod.snd ∘ (fun t : Table => (Text.lower t.name, t)) = id from rfl,
    List.map_id] at listed
  exact (List.mergeSort_perm _ _).trans listed

/-- Names that differ in lower case differ, so no two tables are level in the sorted list. -/
theorem tables_ascending (holds : c.Holds held) :
    c.tables.Pairwise fun t u => t.name < u.name := by
  have sorted : c.tables.Pairwise fun t u => decide (t.name ≤ u.name) = true := by
    apply List.pairwise_mergeSort
    · intro t u v first second
      exact decide_eq_true (String.le_trans (of_decide_eq_true first) (of_decide_eq_true second))
    · intro t u
      simpa using String.le_total t.name u.name
  have apart := holds.tables_perm.symm.pairwise holds.names_apart Ne.symm
  refine sorted.imp₂ (fun t u before different => ?_) apart
  refine Std.lt_of_le_of_ne (of_decide_eq_true before) fun same => different ?_
  rw [same]

theorem tables_eq (holds : c.Holds held) (holds' : other.Holds held) : c.tables = other.tables := by
  refine List.Perm.eq_of_pairwise ?_ holds.tables_ascending holds'.tables_ascending
    (holds.tables_perm.trans holds'.tables_perm.symm)
  intro t u _ _ less greater
  exact absurd greater (String.lt_asymm less)

theorem table?_eq (holds : c.Holds held) (holds' : other.Holds held) (name : String) :
    c.table? name = other.table? name := by
  refine Option.ext fun t => ?_
  rw [holds.table?_eq_some_iff, holds'.table?_eq_some_iff]

end Holds

/-- One call: its answer, and the catalog behind it. A refused call leaves the catalog alone. -/
def perform (c : Catalog) (d : Declaration) : Answer × Catalog :=
  match c.create d.name d.columns with
  | .ok (table, grown) => (.ok table, grown)
  | .error e => (.error e, c)

/-- A name that is taken is refused before the columns are looked at. -/
theorem perform_answer (c : Catalog) (d : Declaration) :
    (c.perform d).1 = if (c.table? d.name).isSome then .error (.tableExists d.name)
      else Table.declare d.name d.columns := by
  simp only [perform, create, bind, Except.bind, pure, Except.pure]
  split_ifs with taken
  · rfl
  · cases Table.declare d.name d.columns <;> rfl

theorem perform_granted {d : Declaration} {t : Table} (granted : (c.perform d).1 = .ok t) :
    (c.perform d).2.entries = c.entries ++ [(Text.lower d.name, t)] := by
  simp only [perform, create, bind, Except.bind, pure, Except.pure] at granted ⊢
  split_ifs at granted ⊢
  cases declared : Table.declare d.name d.columns with
  | error e => simp [declared] at granted
  | ok u =>
    simp only [declared, Except.ok.injEq] at granted
    rw [granted]

theorem perform_refused {d : Declaration} {e : CatalogError}
    (refused : (c.perform d).1 = .error e) : (c.perform d).2 = c := by
  unfold perform at refused ⊢
  split
  next granted => simp [granted] at refused
  next => rfl

namespace Holds

theorem answer_eq (holds : c.Holds held) (holds' : other.Holds held) (d : Declaration) :
    (c.perform d).1 = (other.perform d).1 := by
  rw [perform_answer, perform_answer, holds.table?_eq holds']

theorem answer_ok_iff (holds : c.Holds held) {d : Declaration} {t : Table} :
    (c.perform d).1 = .ok t ↔
      (∀ u ∈ held, Text.lower u.name ≠ Text.lower d.name) ∧
        Table.declare d.name d.columns = .ok t := by
  rw [perform_answer, ← holds.table?_eq_none_iff]
  split
  next taken => simp [Option.isSome_iff_ne_none.1 taken]
  next free =>
    have free : c.table? d.name = none := by simpa using free
    simp [free]

theorem answer_isOk_iff (holds : c.Holds held) {d : Declaration} :
    (c.perform d).1.isOk = true ↔
      (∀ t ∈ held, Text.lower t.name ≠ Text.lower d.name) ∧ Table.Admissible d.columns := by
  have granted : (c.perform d).1.isOk = true ↔ ∃ t, (c.perform d).1 = .ok t := by
    cases (c.perform d).1 <;> simp [Except.isOk, Except.toBool]
  simp [granted, holds.answer_ok_iff, Table.declare_ok_iff]

/-- A table that is handed out joins those that are held. -/
theorem perform (holds : c.Holds held) (d : Declaration) :
    (c.perform d).2.Holds (held ++ (c.perform d).1.toOption.toList) := by
  cases answer : (c.perform d).1 with
  | error e =>
    rw [perform_refused answer]
    simpa [Except.toOption] using holds
  | ok t =>
    obtain ⟨free, declared⟩ := holds.answer_ok_iff.1 answer
    obtain ⟨-, named, -⟩ := Table.declare_sound declared
    refine ⟨?_, List.pairwise_append.2 ⟨holds.names_apart, List.pairwise_singleton _ _, ?_⟩⟩
    · rw [perform_granted answer, List.map_append, ← named]
      exact holds.entries.append_right _
    · intro u member v added
      obtain rfl := List.mem_singleton.1 added
      rw [named]
      exact free u member

end Holds

/-- The orders in which a hash table comes to hold its entries, one for each point of a run. -/
structure Arrangement where
  arrange : Nat → List (String × Table) → List (String × Table)
  perm : ∀ step entries, (arrange step entries).Perm entries

/-- The calls of a run with their answers, the oldest first, and the catalog behind them. -/
structure Log where
  past : List (Declaration × Answer) := []
  catalog : Catalog := {}

def Log.call (order : Arrangement) (log : Log) (d : Declaration) : Log where
  past := log.past ++ [(d, (log.catalog.perform d).1)]
  catalog := ⟨order.arrange log.past.length (log.catalog.perform d).2.entries⟩

/-- The calls one after the other, from the empty catalog. -/
def run (order : Arrangement) (calls : List Declaration) : Log :=
  calls.foldl (Log.call order) {}

/-- The tables that were handed out, the oldest first. -/
def created (past : List (Declaration × Answer)) : List Table :=
  past.filterMap fun call => call.2.toOption

/-- No call that succeeded asked for a name with this lower case. -/
def Unused (past : List (Declaration × Answer)) (name : String) : Prop :=
  ∀ d t, (d, .ok t) ∈ past → Text.lower d.name ≠ Text.lower name

/-- What has been answered is what the calls ask for, and the catalog holds what was handed out. -/
structure Log.Faithful (log : Log) : Prop where
  holds : log.catalog.Holds (created log.past)
  declared : ∀ d t, (d, .ok t) ∈ log.past → Table.declare d.name d.columns = .ok t
  answered : ∀ before d answer after, log.past = before ++ (d, answer) :: after →
    (answer.isOk = true ↔ Unused before d.name ∧ Table.Admissible d.columns)

theorem mem_created_iff {past : List (Declaration × Answer)} {t : Table} :
    t ∈ created past ↔ ∃ d, (d, .ok t) ∈ past := by
  have made (answer : Answer) : answer.toOption = some t ↔ answer = .ok t := by
    cases answer <;> simp [Except.toOption]
  simp [created, made]

theorem created_append_singleton (past : List (Declaration × Answer)) (d : Declaration)
    (answer : Answer) :
    created (past ++ [(d, answer)]) = created past ++ answer.toOption.toList := by
  cases answer <;> simp [created, Except.toOption]

theorem append_singleton_eq_append_cons {α : Type} {past before after : List α} {x y : α}
    (split : past ++ [x] = before ++ y :: after) :
    past = before ∧ x = y ∨ ∃ rest, past = before ++ y :: rest := by
  rcases List.eq_nil_or_concat after with rfl | ⟨rest, last, rfl⟩
  · exact .inl (List.append_singleton_inj.1 split)
  · rw [List.concat_eq_append, ← List.cons_append, ← List.append_assoc] at split
    exact .inr ⟨rest, (List.append_singleton_inj.1 split).1⟩

variable {log : Log} {order other : Arrangement}

namespace Log.Faithful

theorem unused_iff (faithful : log.Faithful) {name : String} :
    Unused log.past name ↔ ∀ t ∈ created log.past, Text.lower t.name ≠ Text.lower name := by
  constructor
  · intro unused t member
    obtain ⟨d, called⟩ := mem_created_iff.1 member
    rw [(Table.declare_sound (faithful.declared d t called)).2.1]
    exact unused d t called
  · intro free d t called
    rw [← (Table.declare_sound (faithful.declared d t called)).2.1]
    exact free t (mem_created_iff.2 ⟨d, called⟩)

theorem call (faithful : log.Faithful) (d : Declaration) : (log.call order d).Faithful where
  holds := by
    have holds : (log.call order d).catalog.Holds _ :=
      (faithful.holds.perform d).of_perm (order.perm _ _)
    rwa [← created_append_singleton] at holds
  declared := by
    intro d' t member
    rcases List.mem_append.1 member with old | new
    · exact faithful.declared d' t old
    · obtain ⟨rfl, answer⟩ := Prod.mk.inj (List.mem_singleton.1 new)
      exact (faithful.holds.answer_ok_iff.1 answer.symm).2
  answered := by
    intro before d' answer after split
    -- Only the new call is judged here; at any other place the split is one of the old log.
    rcases append_singleton_eq_append_cons split with ⟨rfl, last⟩ | ⟨rest, earlier⟩
    · obtain ⟨rfl, rfl⟩ := Prod.mk.inj last
      rw [faithful.holds.answer_isOk_iff, faithful.unused_iff]
    · exact faithful.answered before d' answer rest earlier

end Log.Faithful

theorem run_faithful (order : Arrangement) (calls : List Declaration) :
    (run order calls).Faithful := by
  refine List.foldlRecOn calls _ ?_ fun log faithful d _ => faithful.call d
  exact ⟨holds_empty, by simp, by simp⟩

theorem run_append_singleton (calls : List Declaration) (d : Declaration) :
    run order (calls ++ [d]) = (run order calls).call order d :=
  List.foldl_concat _ _ _ _

theorem map_fst_run_past (calls : List Declaration) :
    (run order calls).past.map Prod.fst = calls := by
  induction calls using List.reverseRecOn with
  | nil => rfl
  | append_singleton calls d ih => simp [run_append_singleton, Log.call, ih]

/-- What the calls are answered does not show the order of the entries. -/
theorem run_past_eq (order other : Arrangement) (calls : List Declaration) :
    (run order calls).past = (run other calls).past := by
  induction calls using List.reverseRecOn with
  | nil => rfl
  | append_singleton calls d ih =>
    -- Both catalogs hold what one and the same past has handed out.
    have holds := (run_faithful order calls).holds
    rw [ih] at holds
    have answer := holds.answer_eq (run_faithful other calls).holds d
    simp only [run_append_singleton, Log.call, ih, answer]

/-- A call succeeds if and only if no earlier call that succeeded had its name, whatever the
spelling, its columns have types that a column can have, and no two of their names are alike; a
refused call leaves the catalog as it is. A table is found under every spelling of its name, with
the columns of the call that made it, each at its own place and under every spelling of its name;
and the tables are listed once each by the bytes of their names. None of it depends on how the
entries lie. -/
theorem run_answers_and_contents (order : Arrangement) (calls : List Declaration)
    (few : ∀ d ∈ calls, d.columns.length < UInt32.size) :
    let log := run order calls
    log.past.map Prod.fst = calls ∧
    (∀ before d answer after, log.past = before ++ (d, answer) :: after →
      (answer.isOk = true ↔ Unused before d.name ∧
        (∀ c ∈ d.columns, c.2 ≠ .invalid ∧ c.2 ≠ .null) ∧
        d.columns.Pairwise fun c e => Text.alike c.1 e.1 = false)) ∧
    (∀ d e, (log.catalog.perform d).1 = .error e → (log.catalog.perform d).2 = log.catalog) ∧
    (∀ name t, log.catalog.table? name = some t ↔
      ∃ d, (d, .ok t) ∈ log.past ∧ Text.lower d.name = Text.lower name) ∧
    (∀ d t, (d, .ok t) ∈ log.past →
      t.name = d.name ∧ t.columns.map (fun c => (c.name, c.ty)) = d.columns ∧
      t.columns.map (·.position.toNat) = List.range d.columns.length ∧
      ∀ name c, t.column? name = some c ↔ c ∈ t.columns ∧ Text.alike c.name name = true) ∧
    (created log.past).Pairwise (fun t u => Text.lower t.name ≠ Text.lower u.name) ∧
    log.catalog.tables.Perm (created log.past) ∧
    log.catalog.tables.Pairwise (fun t u => Text.utf8 t.name < Text.utf8 u.name) ∧
    ∀ other : Arrangement,
      (run other calls).past = log.past ∧
      (run other calls).catalog.tables = log.catalog.tables ∧
      ∀ name, (run other calls).catalog.table? name = log.catalog.table? name := by
  intro log
  have faithful : log.Faithful := run_faithful _ calls
  have asked : log.past.map Prod.fst = calls := map_fst_run_past calls
  refine ⟨asked, ?_, fun d e => perform_refused, ?_, ?_, faithful.holds.names_apart,
    faithful.holds.tables_perm, ?_, ?_⟩
  · intro before d answer after split
    rw [faithful.answered before d answer after split, Table.admissible_iff]
    simp only [DataType.declarable_iff]
  · intro name t
    rw [faithful.holds.table?_eq_some_iff, mem_created_iff, ← exists_and_right]
    refine exists_congr fun d => and_congr_right fun called => ?_
    rw [(Table.declare_sound (faithful.declared d t called)).2.1]
  · intro d t called
    have declared := faithful.declared d t called
    obtain ⟨sound, named, listed⟩ := Table.declare_sound declared
    have mem : d ∈ calls := by
      rw [← asked]
      exact List.mem_map_of_mem called
    exact ⟨named, listed, Table.declare_positions declared (few d mem),
      fun name c => sound.column?_eq_some_iff⟩
  · exact faithful.holds.tables_ascending.imp Text.utf8_lt_iff.2
  · intro other
    have same : (run other calls).past = log.past := run_past_eq other order calls
    have holds : (run other calls).catalog.Holds (created log.past) := by
      rw [← same]
      exact (run_faithful _ calls).holds
    exact ⟨same, holds.tables_eq faithful.holds, holds.table?_eq faithful.holds⟩

/-- A name that is taken in another spelling and a column that is declared twice are refused. -/
theorem run_with_refused_calls :
    let reversed : Arrangement :=
      ⟨fun _ entries => entries.reverse, fun _ entries => entries.reverse_perm⟩
    let doctors : Table := ⟨"ärzte", [⟨"id", .int, 0⟩, ⟨"Name", .string, 1⟩]⟩
    let orders : Table := ⟨"Orders", [⟨"id", .bigInt, 0⟩]⟩
    let calls : List Declaration :=
      [⟨"ärzte", [("id", .int), ("Name", .string)]⟩, ⟨"ÄRZTE", [("id", .int)]⟩,
        ⟨"Orders", [("id", .int), ("ID", .bigInt)]⟩, ⟨"Orders", [("id", .bigInt)]⟩]
    let log := run reversed calls
    (∀ d ∈ calls, d.columns.length < UInt32.size) ∧
      log.past.map (fun call => call.2.isOk) = [true, false, false, true] ∧
      log.catalog.table? "ÄrztE" = some doctors ∧ log.catalog.tables = [orders, doctors] := by
  intro reversed doctors orders calls log
  have few : ∀ d ∈ calls, d.columns.length < UInt32.size := by decide
  have answers : log.past.map (fun call => call.2.isOk) = [true, false, false, true] := by
    decide +kernel
  have made : created log.past = [doctors, orders] := by decide +kernel
  obtain ⟨-, -, -, found, contents, -, listed, ascending, -⟩ :=
    run_answers_and_contents reversed calls few
  refine ⟨few, answers, ?_, ?_⟩
  · have member : doctors ∈ created log.past := by rw [made]; exact List.mem_cons_self
    obtain ⟨d, called⟩ := mem_created_iff.1 member
    have named : Text.lower d.name = Text.lower doctors.name := by
      rw [(contents d doctors called).1]
    have folded : Text.lower doctors.name = Text.lower "ÄrztE" := by decide +kernel
    exact (found "ÄrztE" doctors).2 ⟨d, called, named.trans folded⟩
  · have sorted : [orders, doctors].Pairwise fun t u => Text.utf8 t.name < Text.utf8 u.name := by
      decide +kernel
    have same : log.catalog.tables.Perm [orders, doctors] := by
      refine listed.trans ?_
      rw [made]
      exact .swap _ _ _
    exact same.eq_of_pairwise
      (fun t u _ _ less greater => absurd greater (List.lt_asymm less)) ascending sorted

end Catalog
end ScalarSql

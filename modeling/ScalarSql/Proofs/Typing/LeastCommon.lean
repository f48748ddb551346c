import ScalarSql.Analysis.Functions
import ScalarSql.Proofs.Typing.Widening

/-!
The type of a COALESCE. Its arguments widen one after the other, from the first on, and end at the
least type that all of them widen to; there is one exactly if any two of them are compatible. So the
type depends on which types occur, NULL apart, and not on how the call lists or groups them
(`coalesce_least_common`).
-/
namespace ScalarSql
namespace DataType

variable {s t u c d : DataType} {ts us : List DataType}

/-- All the types widen to `c`, and `c` to every other type that all of them widen to. -/
structure LeastAbove (ts : List DataType) (c : DataType) : Prop where
  above : ∀ t ∈ ts, t.Widens c
  least : ∀ d, (∀ t ∈ ts, t.Widens d) → c.Widens d

theorem LeastAbove.unique (first : LeastAbove ts c) (second : LeastAbove ts d) : c = d :=
  (first.least d second.above).antisymm (second.least c first.above)

/-- The types above the least one are those above all. -/
theorem LeastAbove.widens_iff (least : LeastAbove ts c) :
    c.Widens d ↔ ∀ t ∈ ts, t.Widens d :=
  ⟨fun widens t member => (least.above t member).trans widens, least.least d⟩

theorem LeastAbove.valid (least : LeastAbove ts c) : c ≠ .invalid :=
  (least.least c least.above).valid.2

/-- Lists that the same types are above have the same least one. -/
theorem LeastAbove.congr (bounds : ∀ d, (∀ t ∈ us, t.Widens d) ↔ ∀ t ∈ ts, t.Widens d)
    (least : LeastAbove ts c) : LeastAbove us c where
  above := (bounds c).2 least.above
  least d above := least.least d ((bounds d).1 above)

/-- The least types of two lists are below the same types as the whole list. -/
theorem LeastAbove.widens_append_iff (left : LeastAbove ts c) (right : LeastAbove us d)
    (top : DataType) : (∀ t ∈ ts ++ us, t.Widens top) ↔ ∀ t ∈ [c, d], t.Widens top := by
  rw [List.forall_mem_append, ← left.widens_iff, ← right.widens_iff]
  simp

theorem LeastCommon.widens_iff (least : LeastCommon s t c) :
    c.Widens d ↔ s.Widens d ∧ t.Widens d :=
  ⟨fun widens => ⟨least.left.trans widens, least.right.trans widens⟩,
    fun ⟨left, right⟩ => least.least d left right⟩

/-- NULL widens to whatever the others do, so it can be left out as long as something is listed. -/
theorem above_iff_of_listed (listed : ts ≠ []) :
    (∀ t ∈ ts, t.Widens d) ↔ d ≠ .invalid ∧ ∀ t ∈ ts, t ≠ .null → t.Widens d := by
  obtain ⟨first, member⟩ := List.exists_mem_of_ne_nil ts listed
  constructor
  · intro above
    exact ⟨(above first member).valid.2, fun t inside _ => above t inside⟩
  · rintro ⟨valid, others⟩ t inside
    by_cases null : t = .null
    · exact null ▸ .null valid
    · exact others t inside null

/-- Compatibility is not transitive, since NULL is compatible with every type. But what is
compatible with both of two types is compatible with their common type. -/
theorem compatible_common (common : s.common? t = some c) (left : (s.common? u).isSome = true)
    (right : (t.common? u).isSome = true) : (c.common? u).isSome = true := by
  have computed : ∀ s t u : DataType, (s.common? u).isSome = true → (t.common? u).isSome = true →
      ((s.common? t).all fun c => (c.common? u).isSome) = true := by decide
  simpa [common] using computed s t u left right

end DataType

namespace Builtin

open DataType

variable {first c d : DataType} {rest ts us : List DataType}

/-- Widening starts over from the common type of the first two. -/
theorem leastCommon?_cons_eq_some_iff {second : DataType} :
    leastCommon? first (second :: rest) = some c ↔
      ∃ both, first.common? second = some both ∧ leastCommon? both rest = some c :=
  Option.bind_eq_some_iff

theorem leastAbove_of_leastCommon? (valid : first ≠ .invalid)
    (found : leastCommon? first rest = some c) : LeastAbove (first :: rest) c := by
  induction rest generalizing first with
  | nil =>
    cases found
    exact ⟨by simpa using Widens.self valid, fun d above => above c (by simp)⟩
  | cons second rest ih =>
    obtain ⟨both, common, found⟩ := leastCommon?_cons_eq_some_iff.1 found
    have pair := common?_eq_some_iff.1 common
    have least := ih pair.left.valid.2 found
    refine least.congr fun d => ?_
    simp only [List.forall_mem_cons, pair.widens_iff, and_assoc]

theorem exists_leastCommon? (above : ∀ t ∈ first :: rest, t.Widens d) :
    ∃ c, leastCommon? first rest = some c := by
  induction rest generalizing first with
  | nil => exact ⟨first, rfl⟩
  | cons second rest ih =>
    obtain ⟨left, right, others⟩ := by simpa using above
    obtain ⟨both, common, widens⟩ := common?_of_widens left right
    obtain ⟨c, found⟩ := ih (List.forall_mem_cons.2 ⟨widens, others⟩)
    exact ⟨c, leastCommon?_cons_eq_some_iff.2 ⟨both, common, found⟩⟩

theorem leastCommon?_eq_some_iff (valid : first ≠ .invalid) :
    leastCommon? first rest = some c ↔ LeastAbove (first :: rest) c := by
  constructor
  · exact leastAbove_of_leastCommon? valid
  · intro least
    obtain ⟨c', found⟩ := exists_leastCommon? least.above
    rw [found, (leastAbove_of_leastCommon? valid found).unique least]

/-- If any two types are compatible, all have a common type. The accumulated type stays compatible
with what is to come. -/
theorem leastCommon?_isSome_of_compatible
    (compatible : ∀ s ∈ first :: rest, ∀ t ∈ first :: rest, (s.common? t).isSome = true) :
    (leastCommon? first rest).isSome = true := by
  induction rest generalizing first with
  | nil => rfl
  | cons second rest ih =>
    obtain ⟨both, common⟩ :=
      Option.isSome_iff_exists.1 (compatible first (by simp) second (by simp))
    have ahead : ∀ t ∈ rest, (both.common? t).isSome = true := by
      intro t member
      exact compatible_common common (compatible first (by simp) t (by simp [member]))
        (compatible second (by simp) t (by simp [member]))
    have self : (both.common? both).isSome = true := by
      obtain ⟨left, -⟩ := widens_of_common? common
      rw [common?_self (by simpa [isValid] using left.valid.2)]
      rfl
    have all : (leastCommon? both rest).isSome = true := by
      refine ih fun s member t member' => ?_
      rcases List.mem_cons.1 member with rfl | inside
      · rcases List.mem_cons.1 member' with rfl | inside'
        · exact self
        · exact ahead t inside'
      · rcases List.mem_cons.1 member' with rfl | inside'
        · rw [common?_comm]
          exact ahead s inside
        · exact compatible s (by simp [inside]) t (by simp [inside'])
    obtain ⟨c, found⟩ := Option.isSome_iff_exists.1 all
    exact Option.isSome_iff_exists.2 ⟨c, leastCommon?_cons_eq_some_iff.2 ⟨both, common, found⟩⟩

theorem functions_coalesce (first : DataType) (rest : List DataType) :
    functions "coalesce" (first :: rest) = leastCommon? first rest := by
  have named : ofName? "coalesce" = some .coalesce := by decide
  simp [functions, named, result?]

theorem coalesce_eq_some_iff (listed : ts ≠ []) (valid : ∀ t ∈ ts, t ≠ .invalid) :
    functions "coalesce" ts = some c ↔ LeastAbove ts c := by
  obtain ⟨first, rest, rfl⟩ := List.exists_cons_of_ne_nil listed
  rw [functions_coalesce, leastCommon?_eq_some_iff (valid first (by simp))]

theorem exists_coalesce (listed : ts ≠ []) (above : ∀ t ∈ ts, t.Widens d) :
    ∃ c, functions "coalesce" ts = some c := by
  obtain ⟨first, rest, rfl⟩ := List.exists_cons_of_ne_nil listed
  rw [functions_coalesce]
  exact exists_leastCommon? above

theorem coalesce_isSome_iff (listed : ts ≠ []) (valid : ∀ t ∈ ts, t ≠ .invalid) :
    (functions "coalesce" ts).isSome = true ↔ ∀ s ∈ ts, ∀ t ∈ ts, (s.common? t).isSome = true := by
  constructor
  · intro resolved s member t member'
    obtain ⟨c, found⟩ := Option.isSome_iff_exists.1 resolved
    have least := (coalesce_eq_some_iff listed valid).1 found
    exact common?_isSome_iff.2 ⟨c, least.above s member, least.above t member'⟩
  · intro compatible
    obtain ⟨first, rest, rfl⟩ := List.exists_cons_of_ne_nil listed
    rw [functions_coalesce]
    exact leastCommon?_isSome_of_compatible compatible

/-- Calls that the same types are above resolve alike. -/
theorem coalesce_congr (listed : ts ≠ []) (listed' : us ≠ []) (valid : ∀ t ∈ ts, t ≠ .invalid)
    (valid' : ∀ t ∈ us, t ≠ .invalid)
    (bounds : ∀ d, (∀ t ∈ us, t.Widens d) ↔ ∀ t ∈ ts, t.Widens d) :
    functions "coalesce" us = functions "coalesce" ts := by
  refine Option.ext fun c => ?_
  rw [coalesce_eq_some_iff listed valid, coalesce_eq_some_iff listed' valid']
  exact ⟨.congr fun d => (bounds d).symm, .congr bounds⟩

/-- Coalescing the two parts of a list, and then their types, comes to the same as coalescing the
list. -/
theorem coalesce_append (listed : ts ≠ []) (listed' : us ≠ [])
    (valid : ∀ t ∈ ts ++ us, t ≠ .invalid) :
    ((functions "coalesce" ts).bind fun s => (functions "coalesce" us).bind fun t =>
      functions "coalesce" [s, t]) = functions "coalesce" (ts ++ us) := by
  obtain ⟨validLeft, validRight⟩ := List.forall_mem_append.1 valid
  have parts {s t : DataType} (left : functions "coalesce" ts = some s)
      (right : functions "coalesce" us = some t) :
      functions "coalesce" [s, t] = functions "coalesce" (ts ++ us) := by
    have leastLeft := (coalesce_eq_some_iff listed validLeft).1 left
    have leastRight := (coalesce_eq_some_iff listed' validRight).1 right
    have typed : ∀ r ∈ [s, t], r ≠ .invalid := by simp [leastLeft.valid, leastRight.valid]
    exact coalesce_congr (by simp [listed]) (by simp) valid typed fun top =>
      (leastLeft.widens_append_iff leastRight top).symm
  refine Option.ext fun c => ?_
  simp only [Option.bind_eq_some_iff]
  constructor
  · rintro ⟨s, left, t, right, pair⟩
    rw [← parts left right, pair]
  · intro found
    have least := (coalesce_eq_some_iff (by simp [listed]) valid).1 found
    obtain ⟨aboveLeft, aboveRight⟩ := List.forall_mem_append.1 least.above
    obtain ⟨s, left⟩ := exists_coalesce listed aboveLeft
    obtain ⟨t, right⟩ := exists_coalesce listed' aboveRight
    exact ⟨s, left, t, right, (parts left right).trans found⟩

/-- A call of COALESCE over types resolves if any two of them are compatible, and then to the least
type that all of them widen to. So only the types other than NULL that occur in it matter: not their
order, not how often they occur, and not whether NULL stands between them. Nor does it matter if the
arguments are coalesced in two parts. -/
theorem coalesce_least_common (ts : List DataType) (listed : ts ≠ [])
    (valid : ∀ t ∈ ts, t ≠ .invalid) :
    ((functions "coalesce" ts).isSome = true ↔
      ∀ s ∈ ts, ∀ t ∈ ts, (s.common? t).isSome = true) ∧
    (∀ c, functions "coalesce" ts = some c ↔ LeastAbove ts c) ∧
    (∀ us, us ≠ [] → (∀ t, t ≠ .null → (t ∈ us ↔ t ∈ ts)) →
      functions "coalesce" us = functions "coalesce" ts) ∧
    ∀ xs ys, xs ≠ [] → ys ≠ [] → ts = xs ++ ys →
      ((functions "coalesce" xs).bind fun s => (functions "coalesce" ys).bind fun t =>
        functions "coalesce" [s, t]) = functions "coalesce" ts := by
  refine ⟨coalesce_isSome_iff listed valid, fun c => coalesce_eq_some_iff listed valid, ?_, ?_⟩
  · intro us listed' members
    have valid' : ∀ t ∈ us, t ≠ .invalid := by
      rintro t member rfl
      exact valid .invalid ((members .invalid (by decide)).1 member) rfl
    refine coalesce_congr listed listed' valid valid' fun d => ?_
    rw [above_iff_of_listed listed, above_iff_of_listed listed']
    refine and_congr_right fun _ => forall_congr' fun t => ?_
    constructor
    · exact fun above member nonNull => above ((members t nonNull).2 member) nonNull
    · exact fun above member nonNull => above ((members t nonNull).1 member) nonNull
  · rintro xs ys left right rfl
    exact coalesce_append left right valid

/-- A NULL between a small integer and a FLOAT changes nothing, and neither does the FLOAT coming
first, or twice. Beside a DATE each of them is refused, though NULL is not. -/
theorem numbers_coalesce_around_null :
    let ts : List DataType := [.smallInt, .null, .float]
    let us : List DataType := [.float, .smallInt, .null, .float, .null]
    functions "coalesce" ts = some .float ∧ functions "coalesce" us = some .float ∧
      LeastAbove ts .float ∧ functions "coalesce" [.null, .date, .smallInt] = none := by
  intro ts us
  have numbers := coalesce_least_common ts (by decide) (by decide)
  have mixed := coalesce_least_common [.null, .date, .smallInt] (by decide) (by decide)
  have resolved : functions "coalesce" ts = some .float := by decide
  refine ⟨resolved, ?_, (numbers.2.1 .float).1 resolved, ?_⟩
  · rw [numbers.2.2.1 us (by decide) (by decide), resolved]
  · rw [← Option.not_isSome_iff_eq_none, mixed.1]
    decide

end Builtin
end ScalarSql

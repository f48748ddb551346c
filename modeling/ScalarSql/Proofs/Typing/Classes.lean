import ScalarSql.Analysis.Functions
import ScalarSql.Operator
import ScalarSql.Proofs.Tree.Equality
import ScalarSql.Proofs.Typing.Widening

/-!
Types that can stand in for others. NULL stands in for every type, an integer type for every number,
a floating type for the floating ones, and a date type for the date types. Whatever operators,
casts, aggregates and the functions of every query do with types, they do with those that stand in
for them, and the result then stands in for the result (`Covers`).
-/
namespace ScalarSql
namespace DataType

/-- The types of the class of `t`: integers for an integer type, numbers for a floating one, dates
for a date type, and otherwise the type alone. -/
def inClassOf (s t : DataType) : Bool :=
  if t.isInteger then s.isInteger
  else if t.isFloating then s.isNumeric
  else if t.isTemporal then s.isTemporal
  else s == t

/-- A type of the class, or NULL. -/
def StandsFor (s t : DataType) : Prop := s = .null ∨ s.inClassOf t = true

instance (s t : DataType) : Decidable (s.StandsFor t) := inferInstanceAs (Decidable (_ ∨ _))

theorem StandsFor.refl (t : DataType) : t.StandsFor t := by cases t <;> decide

theorem StandsFor.trans {s t u : DataType} (first : s.StandsFor t) (second : t.StandsFor u) :
    s.StandsFor u := by
  revert s t u
  decide

/-- Where there was a type there is one that stands in for it. -/
def Covers (new old : Option DataType) : Prop :=
  ∀ t, old = some t → ∃ s, new = some s ∧ s.StandsFor t

theorem covers_iff {new old : Option DataType} :
    Covers new old ↔ (old.all fun t => new.any fun s => decide (s.StandsFor t)) = true := by
  cases old with
  | none => simp [Covers]
  | some t => cases new <;> simp [Covers]

instance (new old : Option DataType) : Decidable (Covers new old) :=
  decidable_of_iff' _ covers_iff

theorem Covers.refl (t : Option DataType) : Covers t t :=
  fun s found => ⟨s, found, .refl s⟩

theorem Covers.trans {new middle old : Option DataType} (first : Covers new middle)
    (second : Covers middle old) : Covers new old := by
  intro t found
  obtain ⟨u, found', stands'⟩ := second t found
  obtain ⟨s, found'', stands⟩ := first u found'
  exact ⟨s, found'', stands.trans stands'⟩

theorem Covers.isSome {new old : Option DataType} (covers : Covers new old)
    (typed : old.isSome = true) : new.isSome = true := by
  obtain ⟨t, found⟩ := Option.isSome_iff_exists.1 typed
  obtain ⟨s, found', -⟩ := covers t found
  rw [found']
  rfl

section Operands

variable {l l' r r' : DataType}

theorem common?_covers_left (left : l'.StandsFor l) (r : DataType) :
    Covers (l'.common? r) (l.common? r) := by
  revert l l' r
  decide

theorem common?_covers (left : l'.StandsFor l) (right : r'.StandsFor r) :
    Covers (l'.common? r') (l.common? r) := by
  have second := common?_covers_left right l
  rw [common?_comm r', common?_comm r] at second
  exact (common?_covers_left left r').trans second

theorem StandsFor.castableTo {s s' target : DataType} (stands : s'.StandsFor s)
    (castable : s.castableTo target = true) : s'.castableTo target = true := by
  revert s s' target
  decide

/-- A family of types with all that stand in for one of them. -/
def Closed (family : DataType → Bool) : Prop :=
  ∀ s t : DataType, s.StandsFor t → family t = true → family s = true

instance (family : DataType → Bool) : Decidable (Closed family) :=
  inferInstanceAs (Decidable (∀ s t : DataType, s.StandsFor t → family t = true → family s = true))

theorem closed_orNull_isNumeric : Closed (orNull isNumeric) := by decide

theorem closed_orNull_isInteger : Closed (orNull isInteger) := by decide

theorem closed_orNull_isTemporal : Closed (orNull isTemporal) := by decide

theorem closed_orNull_string : Closed (orNull (· == .string)) := by decide

theorem closed_orNull_boolean : Closed (orNull (· == .boolean)) := by decide

end Operands
end DataType

open DataType

section Operators

variable {l l' r r' : DataType}

theorem Arithmetic.result?_covers (op : Arithmetic) (left : l'.StandsFor l)
    (right : r'.StandsFor r) : Covers (op.result? l' r') (op.result? l r) := by
  intro t typed
  unfold result? at typed ⊢
  split at typed
  next numbers =>
    have numbers' := Bool.and_eq_true_iff.2 ((Bool.and_eq_true_iff.1 numbers).imp
      (closed_orNull_isNumeric l' l left) (closed_orNull_isNumeric r' r right))
    rw [if_pos numbers']
    cases op with
    | divide => exact ⟨.double, rfl, (Option.some.inj typed) ▸ .refl .double⟩
    | add | subtract | multiply => exact common?_covers left right t typed
    | modulo =>
      dsimp only at typed ⊢
      split at typed
      next integers =>
        have integers' := Bool.and_eq_true_iff.2 ((Bool.and_eq_true_iff.1 integers).imp
          (closed_orNull_isInteger l' l left) (closed_orNull_isInteger r' r right))
        rw [if_pos integers']
        exact common?_covers left right t typed
      next => cases typed
  next => cases typed

theorem Comparison.result?_covers (op : Comparison) (left : l'.StandsFor l)
    (right : r'.StandsFor r) : Covers (op.result? l' r') (op.result? l r) := by
  intro t typed
  obtain ⟨c, common, rfl⟩ := Option.map_eq_some_iff.1 typed
  obtain ⟨c', common', -⟩ := common?_covers left right c common
  exact ⟨.boolean, by rw [result?, common', Option.map_some], .refl .boolean⟩

theorem Pattern.result?_covers (op : Pattern) (left : l'.StandsFor l)
    (right : r'.StandsFor r) : Covers (op.result? l' r') (op.result? l r) := by
  intro t typed
  unfold result? at typed ⊢
  split at typed
  next strings =>
    have strings' := Bool.and_eq_true_iff.2 ((Bool.and_eq_true_iff.1 strings).imp
      (closed_orNull_string l' l left) (closed_orNull_string r' r right))
    rw [if_pos strings']
    exact ⟨t, typed, .refl t⟩
  next => cases typed

theorem Aggregate.result?_covers (op : Aggregate) (stands : l'.StandsFor l) :
    Covers (op.result? (some l')) (op.result? (some l)) := by
  revert l l'
  cases op <;> decide

end Operators

section Lists

variable {new old : List DataType}

/-- Where no type was refused, none is that stands in. -/
theorem find?_eq_none_of_standsFor {refused refused' : DataType → Bool}
    (kept : ∀ s t : DataType, s.StandsFor t → refused t = false → refused' s = false)
    (stand : List.Forall₂ StandsFor new old) (accepted : old.find? refused = none) :
    new.find? refused' = none := by
  rw [List.find?_eq_none] at accepted ⊢
  intro s member
  obtain ⟨t, inside, stands⟩ := exists_mem_of_forall₂ stand.flip member
  rw [kept s t stands (Bool.eq_false_iff.2 (accepted t inside))]
  exact Bool.false_ne_true

theorem Connective.find?_refused_of_standsFor (op : Connective)
    (stand : List.Forall₂ StandsFor new old) (accepted : old.find? (!op.accepts ·) = none) :
    new.find? (!op.accepts ·) = none := by
  refine find?_eq_none_of_standsFor (fun s t stands boolean => ?_) stand accepted
  rw [Bool.not_eq_false'] at boolean ⊢
  exact closed_orNull_boolean s t stands boolean

theorem find?_incompatible_of_standsFor {l l' : DataType} (left : l'.StandsFor l)
    (stand : List.Forall₂ StandsFor new old)
    (compatible : (old.find? fun t => (l.common? t).isNone) = none) :
    (new.find? fun s => (l'.common? s).isNone) = none := by
  refine find?_eq_none_of_standsFor (fun s t stands common => ?_) stand compatible
  rw [Option.isNone_eq_false_iff] at common ⊢
  exact (common?_covers left stands).isSome common

theorem Aggregate.result?_head?_covers (op : Aggregate) (stand : List.Forall₂ StandsFor new old) :
    Covers (op.result? new.head?) (op.result? old.head?) := by
  cases stand with
  | nil => exact .refl _
  | cons first _ => exact op.result?_covers first

end Lists

/-! ### Functions -/

namespace Builtin

theorem leastCommon?_covers {t t' : DataType} {ts ts' : List DataType} (first : t'.StandsFor t)
    (rest : List.Forall₂ StandsFor ts' ts) :
    Covers (leastCommon? t' ts') (leastCommon? t ts) := by
  induction rest generalizing t t' with
  | nil =>
    intro u typed
    cases typed
    exact ⟨t', rfl, first⟩
  | @cons s' s ts' ts here _ ih =>
    intro u typed
    obtain ⟨c, common, typed⟩ := Option.bind_eq_some_iff.1 typed
    obtain ⟨c', common', stands⟩ := common?_covers first here c common
    obtain ⟨u', typed', result⟩ := ih stands u typed
    exact ⟨u', Option.bind_eq_some_iff.2 ⟨c', common', typed'⟩, result⟩

/-- For functions of fixed result: what each of so many arguments must be, and the result. -/
def signature? : Builtin → Nat → Option (List (DataType → Bool) × DataType)
  | ceil, 1 | floor, 1 => some ([isNumber], .bigInt)
  | round, 1 | sqrt, 1 => some ([isNumber], .double)
  | round, 2 => some ([isNumber, isWhole], .double)
  | length, 1 => some ([isText], .int)
  | lower, 1 | upper, 1 | trim, 1 => some ([isText], .string)
  | concat, n + 1 => some (List.replicate (n + 1) isText, .string)
  | substr, 2 => some ([isText, isWhole], .string)
  | substr, 3 => some ([isText, isWhole, isWhole], .string)
  | now, 0 => some ([], .timestamp)
  | year, 1 => some ([isDate], .int)
  | _, _ => none

theorem forall₂_replicate_iff {α β : Type} {R : α → β → Prop} {a : α} {bs : List β} :
    List.Forall₂ R (List.replicate bs.length a) bs ↔ ∀ b ∈ bs, R a b := by
  induction bs with
  | nil => simp
  | cons b bs ih => simp [List.replicate_succ, ih]

/-- A function of fixed result checks each argument for itself. -/
theorem result?_eq_some_iff {f : Builtin} {ts : List DataType} {t : DataType}
    (fixed : f ≠ .abs ∧ f ≠ .coalesce) :
    f.result? ts = some t ↔ ∃ families, List.Forall₂ (fun family s => family s = true) families ts ∧
      f.signature? ts.length = some (families, t) := by
  cases f with
  | abs => exact absurd rfl fixed.1
  | coalesce => exact absurd rfl fixed.2
  | concat =>
    cases ts with
    | nil => simp [result?, signature?]
    | cons s ss =>
      simp [result?, signature?, List.replicate_succ, forall₂_replicate_iff, and_assoc]
  | _ =>
    rcases ts with _ | ⟨r, _ | ⟨s, _ | ⟨u, _ | ⟨v, vs⟩⟩⟩⟩ <;> simp [result?, signature?, and_assoc]

theorem signature?_closed {f : Builtin} {n : Nat} {families : List (DataType → Bool)}
    {t : DataType} (signature : f.signature? n = some (families, t)) :
    ∀ family ∈ families, Closed family := by
  have number : Closed isNumber := closed_orNull_isNumeric
  have whole : Closed isWhole := closed_orNull_isInteger
  have text : Closed isText := closed_orNull_string
  have date : Closed isDate := closed_orNull_isTemporal
  unfold signature? at signature
  split at signature <;> cases signature <;> simp_all

theorem forall₂_of_closed {families : List (DataType → Bool)} {ts ts' : List DataType}
    (closed : ∀ family ∈ families, Closed family) (stand : List.Forall₂ StandsFor ts' ts)
    (each : List.Forall₂ (fun family s => family s = true) families ts) :
    List.Forall₂ (fun family s => family s = true) families ts' := by
  induction each generalizing ts' with
  | nil =>
    cases stand
    exact .nil
  | @cons family t families ts here _ ih =>
    obtain ⟨first, others⟩ := List.forall_mem_cons.1 closed
    cases stand with
    | cons stands rest => exact .cons (first _ t stands here) (ih others rest)

theorem result?_covers_of_fixed {f : Builtin} (fixed : f ≠ .abs ∧ f ≠ .coalesce)
    {ts ts' : List DataType} (stand : List.Forall₂ StandsFor ts' ts) :
    Covers (f.result? ts') (f.result? ts) := by
  intro t typed
  obtain ⟨families, each, signature⟩ := (result?_eq_some_iff fixed).1 typed
  have each' := forall₂_of_closed (signature?_closed signature) stand each
  rw [← stand.length_eq] at signature
  exact ⟨t, (result?_eq_some_iff fixed).2 ⟨families, each', signature⟩, .refl t⟩

theorem result?_covers (f : Builtin) {ts ts' : List DataType}
    (stand : List.Forall₂ StandsFor ts' ts) : Covers (f.result? ts') (f.result? ts) := by
  cases f with
  | abs =>
    match stand with
    | .nil => exact .refl none
    | .cons first .nil =>
      have single : ∀ t t' : DataType, t'.StandsFor t →
          Covers (abs.result? [t']) (abs.result? [t]) := by decide
      exact single _ _ first
    | .cons _ (.cons _ _) => exact .refl none
  | coalesce =>
    match stand with
    | .nil => exact .refl none
    | .cons first rest => exact leastCommon?_covers first rest
  | _ => exact result?_covers_of_fixed (by decide) stand

/-- The functions of every query know no type that another cannot stand in for. -/
theorem functions_cover (name : String) {ts ts' : List DataType}
    (stand : List.Forall₂ StandsFor ts' ts) :
    Covers (functions name ts') (functions name ts) := by
  intro t typed
  obtain ⟨f, found, result⟩ := Option.bind_eq_some_iff.1 typed
  obtain ⟨t', result', stands⟩ := f.result?_covers stand t result
  exact ⟨t', Option.bind_eq_some_iff.2 ⟨f, found, result'⟩, stands⟩

end Builtin
end ScalarSql

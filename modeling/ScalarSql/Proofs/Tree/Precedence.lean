import ScalarSql.Proofs.Tree.Rewriting

/-!
Maps as callers make them, from the empty map by putting pairs and by combining maps. The pair that
was put first decides a look-up, and combining puts the pairs of the second map behind those of the
first (`first_put_decides`). A map can be kept as two lists, one of patterns and one of
replacements: every call leaves them in step, so a replacement is always found at the place of its
pattern.
-/
namespace ScalarSql
namespace Substitution

/-- How a map is made. -/
inductive Recipe where
  | empty
  | put (recipe : Recipe) (pattern replacement : Expr)
  | combine (first second : Recipe)

/-- Patterns and replacements in lists of their own, at the same places. -/
structure Columns where
  patterns : List Expr := []
  replacements : List Expr := []

namespace Columns

def put (c : Columns) (pattern replacement : Expr) : Columns :=
  ⟨c.patterns ++ [pattern], c.replacements ++ [replacement]⟩

def pairs (c : Columns) : List (Expr × Expr) := c.patterns.zip c.replacements

/-- The pairs of the second map are put one by one. -/
def combine (first second : Columns) : Columns :=
  second.pairs.foldl (fun c p => c.put p.1 p.2) first

/-- The place of the first pattern that is the same expression. -/
def place? (c : Columns) (e : Expr) : Option Nat := c.patterns.findIdx? (· == e)

end Columns

namespace Recipe

/-- The map that the calls leave. -/
def map : Recipe → Substitution
  | empty => {}
  | put recipe pattern replacement => recipe.map.put pattern replacement
  | combine first second => first.map.combine second.map

/-- What the calls leave of a map that is kept as two lists. -/
def columns : Recipe → Columns
  | empty => {}
  | put recipe pattern replacement => recipe.columns.put pattern replacement
  | combine first second => first.columns.combine second.columns

/-- The pairs put, in their order; those of a combined map one map after the other. -/
def puts : Recipe → List (Expr × Expr)
  | empty => []
  | put recipe pattern replacement => recipe.puts ++ [(pattern, replacement)]
  | combine first second => first.puts ++ second.puts

theorem pairs_map (recipe : Recipe) : recipe.map.pairs = recipe.puts := by
  induction recipe with
  | empty => rfl
  | put recipe pattern replacement ih => rw [map, Substitution.put, puts, ih]
  | combine first second left right => rw [map, Substitution.combine, puts, left, right]

end Recipe

section TwoLists

variable (m n : Substitution) (e : Expr)

/-- The map as two lists. -/
def columns : Columns := ⟨m.patterns, m.replacements⟩

theorem columns_put (pattern replacement : Expr) :
    (m.put pattern replacement).columns = m.columns.put pattern replacement := by
  simp [columns, Columns.put, put, patterns, replacements]

theorem pairs_columns : m.columns.pairs = m.pairs :=
  (List.zip_of_prod rfl rfl).symm

/-- Combining is putting the pairs of the second map behind those of the first. -/
theorem combine_eq_foldl : m.combine n = n.pairs.foldl (fun m p => m.put p.1 p.2) m := by
  obtain ⟨pairs⟩ := n
  induction pairs generalizing m with
  | nil => exact congrArg mk (List.append_nil m.pairs)
  | cons p pairs ih =>
    rw [List.foldl_cons, ← ih]
    exact congrArg mk (List.append_cons m.pairs p pairs)

theorem columns_combine : (m.combine n).columns = m.columns.combine n.columns := by
  rw [combine_eq_foldl, Columns.combine, pairs_columns]
  generalize n.pairs = pairs
  induction pairs generalizing m with
  | nil => rfl
  | cons p pairs ih => rw [List.foldl_cons, ih, columns_put, List.foldl_cons]

theorem place?_columns : m.columns.place? e = m.pairs.findIdx? (·.1 == e) := by
  rw [Columns.place?, columns, patterns, List.findIdx?_map]
  rfl

theorem place?_lt {i : Nat} (found : m.columns.place? e = some i) :
    i < m.columns.replacements.length := by
  rw [place?_columns] at found
  obtain ⟨bound, -⟩ := List.findIdx?_eq_some_iff_getElem.1 found
  simpa [columns, replacements] using bound

/-- A look-up reads the replacement at the place of the pattern. -/
theorem get?_eq_bind_place? :
    m.get? e = (m.columns.place? e).bind fun i => m.columns.replacements[i]? := by
  rw [place?_columns, get?, List.find?_eq_bind_findIdx?_getElem?, Option.map_bind]
  simp only [columns, replacements, List.getElem?_map]
  rfl

end TwoLists

theorem Recipe.columns_eq (recipe : Recipe) : recipe.columns = recipe.map.columns := by
  induction recipe with
  | empty => rfl
  | put recipe pattern replacement ih => rw [columns, ih, map, columns_put]
  | combine first second left right => rw [columns, left, right, map, columns_combine]

/-- Whatever is put or combined later stands behind what already decides. -/
theorem get?_combine_of_some {m : Substitution} {e r : Expr} (found : m.get? e = some r)
    (later : Substitution) : (m.combine later).get? e = some r := by
  rw [get?_combine, found]
  rfl

theorem get?_put_of_some {m : Substitution} {e r : Expr} (found : m.get? e = some r)
    (pattern replacement : Expr) : (m.put pattern replacement).get? e = some r :=
  get?_combine_of_some found ⟨[(pattern, replacement)]⟩

theorem combine_assoc (a b c : Substitution) :
    (a.combine b).combine c = a.combine (b.combine c) :=
  congrArg mk (List.append_assoc a.pairs b.pairs c.pairs)

/-- What holds of a map that calls have made, kept as two lists or as one list of pairs. -/
structure Recipe.FirstPutDecides (recipe : Recipe) : Prop where
  kept : recipe.columns.patterns = recipe.map.patterns ∧
    recipe.columns.replacements = recipe.map.replacements
  aligned : recipe.columns.patterns.length = recipe.columns.replacements.length
  within (e : Expr) (i : Nat) :
    recipe.columns.place? e = some i → i < recipe.columns.replacements.length
  read (e : Expr) : recipe.map.get? e =
    (recipe.columns.place? e).bind fun i => recipe.columns.replacements[i]?
  listed : recipe.map.pairs = recipe.puts ∧ recipe.columns.pairs = recipe.puts
  found (e replacement : Expr) : recipe.map.get? e = some replacement ↔
    ∃ before pattern after, recipe.puts = before ++ (pattern, replacement) :: after ∧
      (pattern == e) = true ∧ ∀ p ∈ before, (p.1 == e) = false
  missing (e : Expr) : recipe.map.get? e = none ↔ ∀ p ∈ recipe.puts, (p.1 == e) = false
  alike (e f : Expr) : (e == f) = true → recipe.map.get? e = recipe.map.get? f

/-- In every map that calls have made, the first pair put whose pattern is the same expression
decides. Combined maps answer one after the other, it does not matter how several are grouped, the
empty map adds nothing, and no later call changes an answer. -/
theorem first_put_decides :
    (∀ recipe : Recipe, recipe.FirstPutDecides) ∧
    (∀ (first second : Substitution) (e : Expr),
      (first.combine second).get? e = (first.get? e <|> second.get? e)) ∧
    (∀ a b c : Substitution, (a.combine b).combine c = a.combine (b.combine c)) ∧
    (∀ m : Substitution, combine {} m = m ∧ m.combine {} = m) ∧
    ∀ (m : Substitution) (e r : Expr), m.get? e = some r →
      (∀ pattern replacement, (m.put pattern replacement).get? e = some r) ∧
        ∀ later, (m.combine later).get? e = some r := by
  refine ⟨fun recipe => ?_, get?_combine, combine_assoc, fun m => ⟨rfl, ?_⟩, ?_⟩
  · exact {
      kept := recipe.columns_eq ▸ ⟨rfl, rfl⟩
      aligned := by simp [recipe.columns_eq, columns, patterns, replacements]
      within := fun e i => recipe.columns_eq ▸ recipe.map.place?_lt e
      read := fun e => recipe.columns_eq ▸ recipe.map.get?_eq_bind_place? e
      listed := ⟨recipe.pairs_map, by rw [recipe.columns_eq, pairs_columns, recipe.pairs_map]⟩
      found := fun e replacement => recipe.pairs_map ▸ get?_eq_some_iff
      missing := fun e => recipe.pairs_map ▸ get?_eq_none_iff
      alike := fun e f => recipe.map.get?_congr }
  · exact congrArg mk (List.append_nil m.pairs)
  · exact fun m e r found => ⟨get?_put_of_some found, get?_combine_of_some found⟩

/-- Two maps with the same pattern: the first one answers for it under another label and type, and
goes on to do so when the pattern is put once more. The second answers for the rest. -/
theorem first_map_answers_for_relabeled :
    let x (label : Option String) : Expr := .slot ⟨⟨1, 0⟩, ⟨1, 0⟩, label⟩
    let y : Expr := .slot ⟨⟨1, 0⟩, ⟨1, 1⟩, none⟩
    let first : Recipe := .put (.put .empty (x (some "t.x")) .countStar) (x none) (.literal .null)
    let second : Recipe := .put (.put .empty (x none) y) y (x none)
    let both : Recipe := .combine first second
    let e : Expr := (x none).setType .date
    both.map.get? e = some .countStar ∧ both.columns.place? e = some 0 ∧
      (both.map.put (x none) y).get? e = some .countStar ∧ both.map.get? y = some (x none) ∧
      both.FirstPutDecides := by
  intro x y first second both e
  have decides := first_put_decides.1 both
  have found : both.map.get? e = some .countStar :=
    (decides.found e .countStar).2 ⟨[], x (some "t.x"), _, rfl, rfl, by simp⟩
  have rest : both.map.get? y = some (x none) := by
    rw [show both.map = first.map.combine second.map from rfl, first_put_decides.2.1]
    rfl
  exact ⟨found, rfl, (first_put_decides.2.2.2.2 both.map e .countStar found).1 (x none) y, rest,
    decides⟩

end Substitution
end ScalarSql

import ScalarSql.OrderItem
import ScalarSql.Proofs.Tree.Rewriting

/-!
What a substitution makes of a tree, place by place. A place is reached if no node above it is
matched. At a reached place that is matched stands the replacement put with the first pattern that
is the same expression; at any other reached place stands a node of the same kind, type and number
of children. This determines the tree (`outermostReplaced_iff`), and every way to rewrite gives it
(`substitute_replaces_outermost`).
-/
namespace ScalarSql

namespace Substitution

variable {m : Substitution} {n r after : Expr}

/-- Some pattern is the same expression. -/
def Matches (m : Substitution) (n : Expr) : Prop := ∃ p ∈ m.pairs, (p.1 == n) = true

instance (m : Substitution) (n : Expr) : Decidable (m.Matches n) :=
  inferInstanceAs (Decidable (∃ p ∈ m.pairs, (p.1 == n) = true))

/-- The first pattern that is the same expression was put with `r`. -/
def FirstMatch (m : Substitution) (n r : Expr) : Prop :=
  ∃ before pattern after, m.pairs = before ++ (pattern, r) :: after ∧ (pattern == n) = true ∧
    ∀ p ∈ before, (p.1 == n) = false

/-- What is to stand where `n` has stood. -/
structure Puts (m : Substitution) (n after : Expr) : Prop where
  replaced : ∀ r, m.FirstMatch n r → after = r
  kept : ¬ m.Matches n →
    after.kind = n.kind ∧ after.ty = n.ty ∧ after.children.length = n.children.length

theorem not_matches_iff : ¬ m.Matches n ↔ m.get? n = none := by
  rw [get?_eq_none_iff, Matches]
  simp only [not_exists, not_and, Bool.not_eq_true]

theorem matches_of_get? (found : m.get? n = some r) : m.Matches n := by
  obtain ⟨p, member, same, -⟩ := exists_pair_of_get? found
  exact ⟨p, member, same⟩

theorem puts_iff_of_some (found : m.get? n = some r) : m.Puts n after ↔ after = r := by
  constructor
  · intro puts
    exact puts.replaced r (get?_eq_some_iff.1 found)
  · rintro rfl
    refine ⟨?_, fun unmatched => absurd (matches_of_get? found) unmatched⟩
    intro r first
    have same := found.symm.trans (get?_eq_some_iff.2 first)
    exact Option.some.inj same

theorem puts_iff_of_none (missing : m.get? n = none) :
    m.Puts n after ↔
      after.kind = n.kind ∧ after.ty = n.ty ∧ after.children.length = n.children.length := by
  constructor
  · intro puts
    exact puts.kept (not_matches_iff.2 missing)
  · intro alike
    refine ⟨?_, fun _ => alike⟩
    intro r first
    rw [get?_eq_some_iff.2 first] at missing
    cases missing

end Substitution

namespace Expr

variable {m : Substitution} {e new : Expr}

/-- No path that is a proper beginning of this one leads to a match. -/
def Reached (m : Substitution) (e : Expr) (path : List Nat) : Prop :=
  ∀ above, above <+: path → above ≠ path → ∀ n, e.at? above = some n → ¬ m.Matches n

theorem reached_nil : Reached m e [] := by
  intro above before proper
  exact absurd (List.prefix_nil.1 before) proper

theorem reached_cons {i : Nat} {path : List Nat} :
    Reached m e (i :: path) ↔
      ¬ m.Matches e ∧ ∀ c, e.children[i]? = some c → Reached m c path := by
  constructor
  · intro reached
    refine ⟨reached [] List.nil_prefix nofun e rfl, ?_⟩
    intro c place above before proper n leads
    exact reached (i :: above) (List.cons_prefix_cons.2 ⟨rfl, before⟩)
      (fun same => proper (List.cons.inj same).2) n (at?_cons_eq_some.2 ⟨c, place, leads⟩)
  · rintro ⟨root, below⟩ above before proper n leads
    cases above with
    | nil =>
      cases leads
      exact root
    | cons j above =>
      obtain ⟨rfl, earlier⟩ := List.cons_prefix_cons.1 before
      obtain ⟨c, place, deeper⟩ := at?_cons_eq_some.1 leads
      exact below c place above earlier (fun same => proper (congrArg (j :: ·) same)) n deeper

/-- Every reached place of the first tree has in the second tree what is to stand there. -/
def OutermostReplaced (m : Substitution) (e new : Expr) : Prop :=
  ∀ path n, e.at? path = some n → Reached m e path →
    ∃ after, new.at? path = some after ∧ m.Puts n after

/-- The root is a reached place, and the places below it count if it is no match. -/
theorem outermostReplaced_step :
    OutermostReplaced m e new ↔
      m.Puts e new ∧ (¬ m.Matches e → ∀ (i : Nat) c, e.children[i]? = some c →
        ∃ d, new.children[i]? = some d ∧ OutermostReplaced m c d) := by
  constructor
  · intro replaced
    constructor
    · obtain ⟨after, leads, puts⟩ := replaced [] e rfl reached_nil
      cases leads
      exact puts
    · intro unmatched i c place
      have reached : ∀ path, Reached m c path → Reached m e (i :: path) := by
        intro path below
        refine reached_cons.2 ⟨unmatched, fun c' place' => ?_⟩
        rw [place] at place'
        cases place'
        exact below
      obtain ⟨after, stands, -⟩ :=
        replaced [i] c (at?_cons_eq_some.2 ⟨c, place, rfl⟩) (reached [] reached_nil)
      obtain ⟨d, place', -⟩ := at?_cons_eq_some.1 stands
      refine ⟨d, place', ?_⟩
      intro path n leads below
      obtain ⟨after, leads', puts⟩ :=
        replaced (i :: path) n (at?_cons_eq_some.2 ⟨c, place, leads⟩) (reached path below)
      obtain ⟨d', same, deeper⟩ := at?_cons_eq_some.1 leads'
      rw [place'] at same
      cases same
      exact ⟨after, deeper, puts⟩
  · rintro ⟨root, below⟩ path n leads reached
    cases path with
    | nil =>
      cases leads
      exact ⟨new, rfl, root⟩
    | cons i path =>
      obtain ⟨unmatched, reachedBelow⟩ := reached_cons.1 reached
      obtain ⟨c, place, leads⟩ := at?_cons_eq_some.1 leads
      obtain ⟨d, place', replaced⟩ := below unmatched i c place
      obtain ⟨after, deeper, puts⟩ := replaced path n leads (reachedBelow c place)
      exact ⟨after, at?_cons_eq_some.2 ⟨d, place', deeper⟩, puts⟩

/-- Only one tree has at every reached place what is to stand there, and substituting gives it. -/
theorem outermostReplaced_iff : OutermostReplaced m e new ↔ new = e.substitute m := by
  induction e using children_induction generalizing new with
  | node kind children ty ih =>
    rw [outermostReplaced_step]
    cases found : m.get? (node kind children ty) with
    | some r =>
      rw [Substitution.puts_iff_of_some found, substitute_of_some found]
      exact and_iff_left fun unmatched => absurd (Substitution.matches_of_get? found) unmatched
    | none =>
      obtain ⟨kind', children', ty'⟩ := new
      have unmatched := Substitution.not_matches_iff.2 found
      rw [Substitution.puts_iff_of_none found, substitute_of_none found]
      simp only [kind_node, ty_node, children_node, node.injEq, unmatched, not_false_eq_true,
        true_implies]
      constructor
      · rintro ⟨⟨rfl, rfl, count⟩, below⟩
        refine ⟨rfl, List.ext_getElem? fun i => ?_, rfl⟩
        rw [List.getElem?_map]
        cases place : children[i]? with
        | none =>
          rw [List.getElem?_eq_none_iff, ← count] at place
          exact List.getElem?_eq_none_iff.2 place
        | some c =>
          obtain ⟨d, place', replaced⟩ := below i c place
          rw [place', (ih c (List.mem_of_getElem? place)).1 replaced, Option.map_some]
      · rintro ⟨rfl, rfl, rfl⟩
        refine ⟨⟨rfl, rfl, List.length_map _⟩, ?_⟩
        intro i c place
        refine ⟨c.substitute m, ?_, (ih c (List.mem_of_getElem? place)).2 rfl⟩
        rw [List.getElem?_map, place, Option.map_some]

/-- Substituting replaces exactly the outermost matches, each once. A copy made with a map is the
same tree, a copy made without one and substituting with no pairs change nothing, and lists and
items of an order are rewritten one by one. -/
theorem substitute_replaces_outermost (m : Substitution) (e : Expr) :
    (∀ new, OutermostReplaced m e new ↔ new = e.substitute m) ∧
    e.copyWith (some m) = e.substitute m ∧ e.copyWith none = e ∧ e.substitute {} = e ∧
    (∀ es, substituteAll m es = es.map (substitute m) ∧
      ∀ map, copyAllWith map es = es.map (copyWith map)) ∧
    ∀ item : OrderItem, item.substitute m = ⟨item.expr.substitute m, item.ascending⟩ ∧
      ∀ map, item.copyWith map = ⟨item.expr.copyWith map, item.ascending⟩ := by
  refine ⟨fun new => outermostReplaced_iff, copyWith_some m e, copyWith_none e, rewrite_never e,
    ?_, ?_⟩
  · intro es
    exact ⟨rewriteAll_eq_map _ es, fun map => copyAllWith_eq_map map es⟩
  · intro item
    exact ⟨rfl, fun map => rfl⟩

/-- A pattern inside another one counts only where the other does not match, and its replacement
holds both patterns again: neither is replaced there. The place above keeps its stale type. -/
theorem nested_patterns_replaced_once :
    let x (label : Option String) : Expr := .slot ⟨⟨1, 0⟩, ⟨1, 3⟩, label⟩
    let next (label : Option String) : Expr := .arithmetic .add (x label) (.literal (.int 1))
    let stale : Expr := (next (some "t.x")).setType .double
    let m : Substitution := ⟨[(next none, .literal .null), (x none, stale), (x none, x none)]⟩
    let sum : Expr := (Expr.arithmetic .multiply (next (some "u.x")) (x (some "u.x"))).setType .date
    let new := (Expr.isNull sum).substitute m
    (Reached m (.isNull sum) [0, 1] ∧ m.FirstMatch (x (some "u.x")) stale ∧
      new.at? [0, 1] = some stale) ∧
    (Reached m (.isNull sum) [0] ∧ ¬ m.Matches sum ∧
      ∃ n, new.at? [0] = some n ∧ n.kind = .arithmetic .multiply ∧ n.ty = .date ∧
        n.children.length = 2) ∧
    new.types = [.invalid, .date, .invalid, .double, .invalid, .invalid] := by
  intro x next stale m sum new
  have replaced : OutermostReplaced m (.isNull sum) new :=
    ((substitute_replaces_outermost m (.isNull sum)).1 new).2 rfl
  have above : ¬ m.Matches (.isNull sum) := by decide
  have unmatched : ¬ m.Matches sum := by decide
  have middle : Reached m (.isNull sum) [0] :=
    reached_cons.2 ⟨above, fun _ _ => reached_nil⟩
  have inner : Reached m (.isNull sum) [0, 1] := by
    refine reached_cons.2 ⟨above, fun c place => ?_⟩
    cases place
    exact reached_cons.2 ⟨unmatched, fun _ _ => reached_nil⟩
  have first : m.FirstMatch (x (some "u.x")) stale :=
    ⟨[(next none, .literal .null)], x none, [(x none, x none)], rfl, by decide, by decide⟩
  refine ⟨⟨inner, first, ?_⟩, ⟨middle, unmatched, ?_⟩, by decide⟩
  · obtain ⟨after, leads, puts⟩ := replaced [0, 1] _ rfl inner
    rw [leads, puts.replaced stale first]
  · obtain ⟨n, leads, puts⟩ := replaced [0] _ rfl middle
    exact ⟨n, leads, puts.kept unmatched⟩

end Expr
end ScalarSql

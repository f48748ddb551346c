import ScalarSql.Proofs.Sql.Spelling

/-!
Where an expression ends and how it begins. Behind an expression stands nothing, or something that
cannot belong to it (`Ends`, `Stops`), and in front of such an end the text is to tell the tree, up
to the ids of slot references (`Read`). The first character of an operand tells how the operand is
written, and every expression that is no negation is an operand with something behind it
(`text_eq_lead`).
-/
namespace ScalarSql
namespace Expr

/-- What can stand behind an expression that is not an operand. -/
def Ends (r : List Char) : Prop :=
  r = [] ∨ r.head? = some ')' ∨ r.head? = some ',' ∨ ∃ t, r = " AS ".toList ++ t

/-- What can stand behind an operand. -/
def Stops (r : List Char) : Prop := ∀ c, r.head? = some c → c = ' ' ∨ c = ')' ∨ c = ','

theorem Ends.stops {r : List Char} (ends : Ends r) : Stops r := by
  intro c first
  rcases ends with rfl | close | comma | ⟨t, rfl⟩
  · cases first
  · exact Or.inr (Or.inl (Option.some.inj (first.symm.trans close)))
  · exact Or.inr (Or.inr (Option.some.inj (first.symm.trans comma)))
  · exact Or.inl (Option.some.inj first).symm

theorem Stops.breaks {r : List Char} (stops : Stops r) : Text.Breaks r := by
  intro c first
  rcases stops c first with rfl | rfl | rfl <;> decide

theorem Stops.head?_ne_quote {r : List Char} (stops : Stops r) :
    r.head? ≠ some Text.singleQuote := by
  intro first
  exact absurd (stops _ first) (by decide)

theorem stops_of_head? {r : List Char} {c : Char} (first : r.head? = some c)
    (stop : c = ' ' ∨ c = ')' ∨ c = ',') : Stops r := by
  intro d first'
  rw [first] at first'
  exact Option.some.inj first' ▸ stop

theorem ends_close (r : List Char) : Ends (')' :: r) := Or.inr (Or.inl rfl)

theorem ends_itemsText (es : List Expr) (r : List Char) : Ends (itemsText es r) := by
  cases es with
  | nil => exact Or.inr (Or.inl rfl)
  | cons e es => exact Or.inr (Or.inr (Or.inl rfl))

/-- The tree with the text of each slot reference in place of its ids, and without types. -/
def displayed (e : Expr) : Expr := e.mapNodes Kind.displayed fun _ => .invalid

theorem node_displayed_eq_iff {k l : Kind} {cs ds : List Expr} {s t : DataType} :
    (node k cs s).displayed = (node l ds t).displayed ↔
      k.displayed = l.displayed ∧ List.Forall₂ (fun c d => c.displayed = d.displayed) cs ds := by
  simp only [displayed, mapNodes_node, node.injEq, and_true, map_eq_map_iff_forall₂]

/-- In front of anything where it can end, the text tells the tree. -/
def Read (text : Expr → List Char) (ending : List Char → Prop) (a : Expr) : Prop :=
  ∀ b r s, b.Regular → ending r → ending s → text a ++ r = text b ++ s →
    a.displayed = b.displayed ∧ r = s

/-! ### How texts begin -/

theorem operandText_of_selfContained (e : Expr) (self : e.kind.isSelfContained = true) :
    e.operandText = e.text := by
  rw [operandText, if_pos self]

theorem operandText_of_not_selfContained (e : Expr) (other : e.kind.isSelfContained = false)
    (r : List Char) : e.operandText ++ r = '(' :: (e.text ++ ')' :: r) := by
  rw [operandText, other]
  simp

/-- An operand begins with a quote if it is a string, with a parenthesis if it needs one, and
otherwise with a word. -/
theorem operandText_head? {e : Expr} (regular : e.Regular) (r : List Char) :
    ∃ c, (e.operandText ++ r).head? = some c ∧ (c = Text.singleQuote ↔ e.kind.isString = true) ∧
      (c = '(' ↔ e.kind.isSelfContained = false) ∧ c ≠ ')' ∧ c ≠ '*' := by
  obtain ⟨kind, children, ty⟩ := e
  obtain ⟨⟨takes, legible⟩, -⟩ := regular_node.1 regular
  rw [kind_node]
  cases self : kind.isSelfContained with
  | false =>
    rw [operandText_of_not_selfContained (node kind children ty) self]
    have plain : kind.isString = false := by
      cases kind with
      | literal => cases self
      | _ => rfl
    refine ⟨'(', rfl, ?_⟩
    simp [plain, Text.singleQuote]
  | true =>
    rw [operandText_of_selfContained (node kind children ty) self]
    cases plain : kind.isString with
    | true =>
      obtain ⟨s, rfl⟩ := Kind.exists_string plain
      rw [text_of_string]
      refine ⟨Text.singleQuote, rfl, ?_⟩
      simp [Text.singleQuote]
    | false =>
      rw [text_of_word takes self plain]
      obtain ⟨c, rest, word⟩ := List.exists_cons_of_ne_nil (Kind.word_ne_nil legible self plain)
      have inWord : Text.inWord c = true :=
        Kind.word_inWord legible plain c (by rw [word]; exact List.mem_cons_self)
      have different : ∀ d, Text.inWord d = false → c ≠ d := by
        rintro d out rfl
        rw [inWord] at out
        cases out
      rw [word]
      refine ⟨c, rfl, ?_, ?_, different _ (by decide), different _ (by decide)⟩
      · simp [different Text.singleQuote (by decide)]
      · simp [different '(' (by decide)]

/-- So operands with the same text are written in the same way. -/
theorem operand_form_eq {a b : Expr} (regular : a.Regular) (regular' : b.Regular) {r s : List Char}
    (equal : a.operandText ++ r = b.operandText ++ s) :
    a.kind.isString = b.kind.isString ∧ a.kind.isSelfContained = b.kind.isSelfContained := by
  obtain ⟨c, first, quote, paren, -⟩ := operandText_head? regular r
  obtain ⟨d, first', quote', paren', -⟩ := operandText_head? regular' s
  obtain rfl : c = d := Option.some.inj (first.symm.trans (equal ▸ first'))
  constructor
  · exact Bool.eq_iff_iff.2 (quote.symm.trans quote')
  · have needs := paren.symm.trans paren'
    cases left : a.kind.isSelfContained <;> cases right : b.kind.isSelfContained <;> simp_all

/-- The operand that an expression begins with, if it does not begin with NOT. -/
def lead (e : Expr) : Expr :=
  if e.kind.isSelfContained then e else e.children.headD e

/-- What stands behind that operand. -/
def behindLead (e : Expr) (rest : List Char) : List Char :=
  match e.kind.connector with
  | some w => w ++ behindConnector e.kind e.children.tail rest
  | none => rest

theorem text_eq_lead {e : Expr} (regular : e.Regular) (plain : e.kind ≠ .connective .not)
    (rest : List Char) : e.text ++ rest = e.lead.operandText ++ e.behindLead rest := by
  obtain ⟨kind, children, ty⟩ := e
  obtain ⟨⟨takes, -⟩, -⟩ := regular_node.1 regular
  rcases kind.layout_cases with ⟨self, alone⟩ | negation | ⟨other, w, joined⟩
  · simp only [lead, behindLead, kind_node, self, alone, if_true]
    rw [operandText_of_selfContained (node kind children ty) self]
  · exact absurd negation plain
  · obtain ⟨first, others, rfl, text⟩ := text_of_connector takes joined ty
    rw [text]
    simp [lead, behindLead, joined, other]

theorem stops_behindLead {e : Expr} {rest : List Char} (ends : Ends rest) :
    Stops (e.behindLead rest) := by
  unfold behindLead
  split
  next w joined =>
    obtain ⟨t, rfl⟩ : ∃ t, w = ' ' :: t := by
      have first := Kind.connector_head? joined
      cases w with
      | nil => cases first
      | cons c t => exact ⟨t, by rw [Option.some.inj first]⟩
    exact stops_of_head? rfl (Or.inl rfl)
  next => exact ends.stops

end Expr
end ScalarSql

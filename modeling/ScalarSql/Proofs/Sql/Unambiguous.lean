import ScalarSql.Proofs.Sql.Readable

/-!
Two trees have the same SQL text only if they are the same up to the ids of slot references
(`sql_eq_iff_displayed_eq`). One tree is read off after the other: the first operand or word, then
what stands behind it, where each part ends before something that cannot belong to it. Texts as they
stand in a list or a call (`Read text Ends`) and operands (`Read operandText Stops`) are taken
together, by induction on the first tree.
-/
namespace ScalarSql
namespace Expr

/-! ### What a text cannot begin with -/

theorem lead_regular {e : Expr} (regular : e.Regular) : e.lead.Regular := by
  obtain ⟨kind, children, ty⟩ := e
  unfold lead
  split
  · exact regular
  · cases children with
    | nil => exact regular
    | cons c cs => exact (regular_node.1 regular).2 c List.mem_cons_self

theorem text_of_negation {e : Expr} (regular : e.Regular) (negation : e.kind = .connective .not) :
    ∃ c ty, e = node (.connective .not) [c] ty ∧ c.Regular ∧
      ∀ r, e.text ++ r = "NOT ".toList ++ (c.operandText ++ r) := by
  obtain ⟨kind, children, ty⟩ := e
  obtain rfl : kind = .connective .not := negation
  obtain ⟨⟨takes, -⟩, below⟩ := regular_node.1 regular
  obtain ⟨c, rfl, text⟩ := text_of_not takes ty
  refine ⟨c, ty, rfl, below c List.mem_cons_self, ?_⟩
  intro r
  rw [text, List.append_assoc]

theorem text_head?_ne {e : Expr} (regular : e.Regular) (r : List Char) :
    (e.text ++ r).head? ≠ some ')' ∧ (e.text ++ r).head? ≠ some '*' := by
  by_cases negation : e.kind = .connective .not
  · obtain ⟨c, ty, -, -, text⟩ := text_of_negation regular negation
    rw [text]
    exact ⟨by simp, by simp⟩
  · obtain ⟨c, first, -, -, close, star⟩ :=
      operandText_head? (lead_regular regular) (e.behindLead r)
    rw [text_eq_lead regular negation, first]
    exact ⟨fun equal => close (Option.some.inj equal), fun equal => star (Option.some.inj equal)⟩

section Words

variable {kind : Kind} {children : List Expr}

theorem children_of_leaf (takes : kind.takes children.length) (leaf : kind.isLeaf = true) :
    children = [] := by
  cases kind with
  | slot | literal => exact List.eq_nil_of_length_eq_zero takes
  | _ => cases leaf

theorem behindWord_of_leaf (leaf : kind.isLeaf = true) (rest : List Char) :
    behindWord kind children rest = rest := by
  cases kind with
  | slot | literal => rfl
  | _ => cases leaf

theorem behindWord_head? (takes : kind.takes children.length) (self : kind.isSelfContained = true)
    (inner : kind.isLeaf = false) (rest : List Char) :
    (behindWord kind children rest).head? = some '(' := by
  cases kind with
  | slot | literal => cases inner
  | cast target =>
    obtain ⟨c, rfl⟩ := List.length_eq_one_iff.1 takes
    rfl
  | call name => rfl
  | aggregate op distinct =>
    rcases takes with one | ⟨none, -, -⟩
    · obtain ⟨c, rfl⟩ := List.length_eq_one_iff.1 one
      rfl
    · rw [List.eq_nil_of_length_eq_zero none]
      rfl
  | _ => cases self

theorem breaks_behindWord (takes : kind.takes children.length)
    (self : kind.isSelfContained = true) {rest : List Char} (stops : Stops rest) :
    Text.Breaks (behindWord kind children rest) := by
  cases leaf : kind.isLeaf with
  | true =>
    rw [behindWord_of_leaf leaf]
    exact stops.breaks
  | false =>
    intro c first
    rw [behindWord_head? takes self leaf] at first
    cases first
    rfl

end Words

/-- An operand that begins like a word is one that begins with its word. -/
theorem operandText_of_word {e : Expr} (regular : e.Regular) {r : List Char} {c : Char}
    (first : (e.operandText ++ r).head? = some c) (letter : Text.inWord c = true) :
    e.kind.isSelfContained = true ∧ e.kind.isString = false := by
  obtain ⟨d, first', quote, paren, -⟩ := operandText_head? regular r
  obtain rfl : c = d := Option.some.inj (first.symm.trans first')
  constructor
  · by_contra other
    rw [paren.2 (Bool.eq_false_iff.2 other)] at letter
    exact absurd letter (by decide)
  · by_contra string
    rw [quote.2 (Bool.of_not_eq_false string)] at letter
    exact absurd letter (by decide)

/-- No operand is one of the words that SQL puts in front of an expression. -/
theorem operandText_ne_reserved {e : Expr} (regular : e.Regular) {w : String}
    (known : w ∈ Kind.reserved) {r : List Char} (stops : Stops r) (s : List Char) :
    e.operandText ++ r ≠ w.toList ++ ' ' :: s := by
  intro equal
  have capitals : ∀ w ∈ Kind.reserved, Text.Capital w.toList := by decide
  have capital := capitals w known
  obtain ⟨c, rest, spelled⟩ := List.exists_cons_of_ne_nil capital.1
  have first : (e.operandText ++ r).head? = some c := by
    rw [equal, spelled]
    rfl
  have letter : Text.inWord c = true := capital.inWord c (by rw [spelled]; exact List.mem_cons_self)
  have form := operandText_of_word regular first letter
  obtain ⟨kind, children, ty⟩ := e
  obtain ⟨self, plain⟩ := form
  rw [kind_node] at self plain
  obtain ⟨⟨takes, legible⟩, -⟩ := regular_node.1 regular
  rw [operandText_of_selfContained (node kind children ty) self, text_of_word takes self plain]
    at equal
  have blank : Text.Breaks (' ' :: s) := (stops_of_head? rfl (Or.inl rfl)).breaks
  obtain ⟨words, rests⟩ := Text.word_append_inj (Kind.word_inWord legible plain) capital.inWord
    (breaks_behindWord takes self stops) blank equal
  cases leaf : kind.isLeaf with
  | true => exact Kind.word_ne_reserved legible leaf plain known words
  | false =>
    have opens := behindWord_head? takes self leaf r
    rw [rests] at opens
    cases opens

theorem text_ne_distinct {e : Expr} (regular : e.Regular) {r : List Char} (ends : Ends r)
    (s : List Char) : e.text ++ r ≠ "DISTINCT ".toList ++ s := by
  intro equal
  by_cases negation : e.kind = .connective .not
  · obtain ⟨c, ty, -, -, text⟩ := text_of_negation regular negation
    rw [text] at equal
    cases congrArg List.head? equal
  · rw [text_eq_lead regular negation] at equal
    exact operandText_ne_reserved (lead_regular regular) (by decide : "DISTINCT" ∈ Kind.reserved)
      (stops_behindLead ends) s equal

/-! ### Lists, calls and what stands behind a connector -/

section Below

variable {cs ds : List Expr} {r s : List Char}

theorem itemsText_inj (read : ∀ c ∈ cs, Read text Ends c) (regular : ∀ d ∈ ds, d.Regular)
    (equal : itemsText cs r = itemsText ds s) :
    List.Forall₂ (fun c d => c.displayed = d.displayed) cs ds ∧ r = s := by
  induction cs generalizing ds with
  | nil =>
    cases ds with
    | nil => exact ⟨.nil, List.tail_eq_of_cons_eq equal⟩
    | cons d ds => cases congrArg List.head? equal
  | cons c cs ih =>
    cases ds with
    | nil => cases congrArg List.head? equal
    | cons d ds =>
      have items : c.text ++ itemsText cs r = d.text ++ itemsText ds s :=
        List.tail_eq_of_cons_eq (List.tail_eq_of_cons_eq equal)
      obtain ⟨first, others⟩ := read c List.mem_cons_self d _ _ (regular d List.mem_cons_self)
        (ends_itemsText cs r) (ends_itemsText ds s) items
      obtain ⟨rest, behind⟩ := ih (fun c member => read c (List.mem_cons_of_mem _ member))
        (fun d member => regular d (List.mem_cons_of_mem _ member)) others
      exact ⟨.cons first rest, behind⟩

theorem listText_inj (own : ∀ c ∈ cs, c.Regular) (read : ∀ c ∈ cs, Read text Ends c)
    (regular : ∀ d ∈ ds, d.Regular) (equal : listText cs r = listText ds s) :
    List.Forall₂ (fun c d => c.displayed = d.displayed) cs ds ∧ r = s := by
  cases cs with
  | nil =>
    cases ds with
    | nil => exact ⟨.nil, List.tail_eq_of_cons_eq equal⟩
    | cons d ds =>
      have closes := congrArg List.head? equal
      exact absurd closes.symm (text_head?_ne (regular d List.mem_cons_self) _).1
  | cons c cs =>
    cases ds with
    | nil =>
      have closes := congrArg List.head? equal
      exact absurd closes (text_head?_ne (own c List.mem_cons_self) _).1
    | cons d ds =>
      obtain ⟨first, others⟩ := read c List.mem_cons_self d _ _ (regular d List.mem_cons_self)
        (ends_itemsText cs r) (ends_itemsText ds s) equal
      obtain ⟨rest, behind⟩ := itemsText_inj
        (fun c member => read c (List.mem_cons_of_mem _ member))
        (fun d member => regular d (List.mem_cons_of_mem _ member)) others
      exact ⟨.cons first rest, behind⟩

/-- DISTINCT in front of an argument is not the beginning of the argument. -/
theorem distinct_append_inj {c d : Expr} {p q : Bool} (own : c.Regular) (regular : d.Regular)
    (ends : Ends r) (ends' : Ends s)
    (equal : (if p then "DISTINCT " else "").toList ++ (c.text ++ r) =
      (if q then "DISTINCT " else "").toList ++ (d.text ++ s)) :
    p = q ∧ c.text ++ r = d.text ++ s := by
  cases p with
  | true =>
    cases q with
    | true => exact ⟨rfl, List.append_cancel_left equal⟩
    | false => exact absurd equal.symm (text_ne_distinct regular ends' _)
  | false =>
    cases q with
    | true => exact absurd equal (text_ne_distinct own ends _)
    | false => exact ⟨rfl, equal⟩

theorem distinct_append_ne_star {c : Expr} {p : Bool} (own : c.Regular) (r s : List Char) :
    (if p then "DISTINCT " else "").toList ++ (c.text ++ r) ≠ '*' :: s := by
  intro equal
  cases p with
  | true => cases congrArg List.head? equal
  | false =>
    have star := congrArg List.head? equal
    exact (text_head?_ne own r).2 star

theorem behindCast_inj {target target' : DataType} {c d : Expr} (read : Read text Ends c)
    (regular : d.Regular)
    (equal : behindWord (.cast target) [c] r = behindWord (.cast target') [d] s) :
    target = target' ∧ c.displayed = d.displayed ∧ r = s := by
  obtain ⟨argument, targets⟩ := read d _ _ regular (Or.inr (Or.inr (Or.inr ⟨_, rfl⟩)))
    (Or.inr (Or.inr (Or.inr ⟨_, rfl⟩))) (List.tail_eq_of_cons_eq equal)
  obtain ⟨names, closed⟩ := Text.word_append_inj (List.all_eq_true.1 target.sqlName_inWord)
    (List.all_eq_true.1 target'.sqlName_inWord) (ends_close r).stops.breaks
    (ends_close s).stops.breaks (List.append_cancel_left targets)
  exact ⟨DataType.sqlName_inj (String.toList_inj.1 names), argument, List.tail_eq_of_cons_eq closed⟩

theorem behindAggregate_inj {op : Aggregate} {p q : Bool}
    (takes : (Kind.aggregate op p).takes cs.length) (takes' : (Kind.aggregate op q).takes ds.length)
    (own : ∀ c ∈ cs, c.Regular) (read : ∀ c ∈ cs, Read text Ends c)
    (regular : ∀ d ∈ ds, d.Regular)
    (equal : behindWord (.aggregate op p) cs r = behindWord (.aggregate op q) ds s) :
    p = q ∧ List.Forall₂ (fun c d => c.displayed = d.displayed) cs ds ∧ r = s := by
  rcases takes with one | ⟨none, -, each⟩
  · obtain ⟨c, rfl⟩ := List.length_eq_one_iff.1 one
    have own := own c List.mem_cons_self
    rcases takes' with one' | ⟨none', -, -⟩
    · obtain ⟨d, rfl⟩ := List.length_eq_one_iff.1 one'
      have regular := regular d List.mem_cons_self
      obtain ⟨same, arguments⟩ := distinct_append_inj own regular (ends_close r) (ends_close s)
        (List.tail_eq_of_cons_eq equal)
      obtain ⟨argument, closed⟩ := read c List.mem_cons_self d _ _ regular (ends_close r)
        (ends_close s) arguments
      exact ⟨same, .cons argument .nil, List.tail_eq_of_cons_eq closed⟩
    · rw [List.eq_nil_of_length_eq_zero none'] at equal
      exact absurd (List.tail_eq_of_cons_eq equal) (distinct_append_ne_star own _ _)
  · obtain rfl := List.eq_nil_of_length_eq_zero none
    rcases takes' with one' | ⟨none', -, each'⟩
    · obtain ⟨d, rfl⟩ := List.length_eq_one_iff.1 one'
      exact absurd (List.tail_eq_of_cons_eq equal).symm
        (distinct_append_ne_star (regular d List.mem_cons_self) _ _)
    · obtain rfl := List.eq_nil_of_length_eq_zero none'
      have closed := List.tail_eq_of_cons_eq
        (List.tail_eq_of_cons_eq (List.tail_eq_of_cons_eq equal))
      exact ⟨each.trans each'.symm, .nil, closed⟩

/-- In parentheses behind the same word, the text tells the rest of the node. -/
theorem behindWord_inj {k l : Kind} (takes : k.takes cs.length) (takes' : l.takes ds.length)
    (own : ∀ c ∈ cs, c.Regular) (read : ∀ c ∈ cs, Read text Ends c)
    (regular : ∀ d ∈ ds, d.Regular) (self : k.isSelfContained = true) (inner : k.isLeaf = false)
    (shapes : k.shape = l.shape) (words : k.word = l.word)
    (equal : behindWord k cs r = behindWord l ds s) :
    k = l ∧ List.Forall₂ (fun c d => c.displayed = d.displayed) cs ds ∧ r = s := by
  cases k with
  | slot | literal => cases inner
  | cast target =>
    cases l with
    | cast target' =>
      obtain ⟨c, rfl⟩ := List.length_eq_one_iff.1 takes
      obtain ⟨d, rfl⟩ := List.length_eq_one_iff.1 takes'
      obtain ⟨rfl, argument, rests⟩ := behindCast_inj (read c List.mem_cons_self)
        (regular d List.mem_cons_self) equal
      exact ⟨rfl, .cons argument .nil, rests⟩
    | _ => cases shapes
  | call name =>
    cases l with
    | call name' =>
      obtain rfl : name = name' := String.toList_inj.1 words
      exact ⟨rfl, listText_inj own read regular (List.tail_eq_of_cons_eq equal)⟩
    | _ => cases shapes
  | aggregate op distinct =>
    cases l with
    | aggregate op' distinct' =>
      obtain rfl : op = op' := Aggregate.symbol_inj (String.toList_inj.1 words)
      obtain ⟨rfl, arguments, rests⟩ := behindAggregate_inj takes takes' own read regular equal
      exact ⟨rfl, arguments, rests⟩
    | _ => cases shapes
  | _ => cases self

/-- Behind the same connector, the text tells the other children. -/
theorem behindConnector_inj {kind : Kind} {w : List Char} (joined : kind.connector = some w)
    (takes : kind.takes (cs.length + 1)) (takes' : kind.takes (ds.length + 1))
    (own : ∀ c ∈ cs, c.Regular) (read : ∀ c ∈ cs, Read text Ends c ∧ Read operandText Stops c)
    (regular : ∀ d ∈ ds, d.Regular) (ends : Ends r) (ends' : Ends s)
    (equal : behindConnector kind cs r = behindConnector kind ds s) :
    List.Forall₂ (fun c d => c.displayed = d.displayed) cs ds ∧ r = s := by
  have second : cs.length = 1 → ds.length = 1 →
      (∀ e rest, behindConnector kind [e] rest = e.operandText ++ rest) →
      List.Forall₂ (fun c d => c.displayed = d.displayed) cs ds ∧ r = s := by
    intro one one' plain
    obtain ⟨c, rfl⟩ := List.length_eq_one_iff.1 one
    obtain ⟨d, rfl⟩ := List.length_eq_one_iff.1 one'
    rw [plain, plain] at equal
    obtain ⟨right, behind⟩ := (read c List.mem_cons_self).2 d r s (regular d List.mem_cons_self)
      ends.stops ends'.stops equal
    exact ⟨.cons right .nil, behind⟩
  cases kind with
  | arithmetic op | comparison op | pattern op =>
    exact second (Nat.succ.inj takes) (Nat.succ.inj takes') fun _ _ => rfl
  | connective op =>
    cases op with
    | not => cases joined
    | and | or => exact second (Nat.succ.inj takes) (Nat.succ.inj takes') fun _ _ => rfl
  | nullTest negated =>
    obtain rfl := List.eq_nil_of_length_eq_zero (Nat.succ.inj takes)
    obtain rfl := List.eq_nil_of_length_eq_zero (Nat.succ.inj takes')
    exact ⟨.nil, equal⟩
  | membership negated => exact listText_inj own (fun c member => (read c member).1) regular equal
  | range negated =>
    obtain ⟨low, high, rfl⟩ := List.length_eq_two.1 (Nat.succ.inj takes)
    obtain ⟨low', high', rfl⟩ := List.length_eq_two.1 (Nat.succ.inj takes')
    have blank : ∀ t, Stops (" AND ".toList ++ t) := fun t => stops_of_head? rfl (Or.inl rfl)
    obtain ⟨lows, others⟩ := (read low (by simp)).2 low' _ _ (regular low' (by simp))
      (blank _) (blank _) equal
    obtain ⟨highs, behind⟩ := (read high (by simp)).2 high' r s (regular high' (by simp))
      ends.stops ends'.stops (List.append_cancel_left others)
    exact ⟨.cons lows (.cons highs .nil), behind⟩
  | _ => cases joined

end Below

/-! ### Reading a tree -/

section Node

variable {kind : Kind} {children : List Expr} {ty : DataType}

theorem read_word (regular : (node kind children ty).Regular)
    (read : ∀ c ∈ children, Read text Ends c) (self : kind.isSelfContained = true)
    (plain : kind.isString = false) {b : Expr} {r s : List Char} (regular' : b.Regular)
    (self' : b.kind.isSelfContained = true) (plain' : b.kind.isString = false) (stops : Stops r)
    (stops' : Stops s) (equal : (node kind children ty).text ++ r = b.text ++ s) :
    (node kind children ty).displayed = b.displayed ∧ r = s := by
  obtain ⟨kind', children', ty'⟩ := b
  obtain ⟨⟨takes, legible⟩, below⟩ := regular_node.1 regular
  obtain ⟨⟨takes', legible'⟩, below'⟩ := regular_node.1 regular'
  rw [text_of_word takes self plain, text_of_word takes' self' plain'] at equal
  obtain ⟨words, behind⟩ := Text.word_append_inj (Kind.word_inWord legible plain)
    (Kind.word_inWord legible' plain') (breaks_behindWord takes self stops)
    (breaks_behindWord takes' self' stops') equal
  -- A leaf is not taken for anything else: what follows it does not open a parenthesis.
  have unopened : ∀ {t : List Char}, Stops t → t.head? ≠ some '(' := by
    intro t stop first
    exact absurd (stop _ first) (by decide)
  cases leaf : kind.isLeaf with
  | true =>
    rw [behindWord_of_leaf leaf] at behind
    cases leaf' : kind'.isLeaf with
    | true =>
      rw [behindWord_of_leaf leaf'] at behind
      rw [node_displayed_eq_iff, children_of_leaf takes leaf, children_of_leaf takes' leaf']
      exact ⟨⟨Kind.displayed_eq_of_word legible legible' leaf leaf' plain plain' words, .nil⟩,
        behind⟩
    | false =>
      have opens := behindWord_head? takes' self' leaf' s
      rw [← behind] at opens
      exact absurd opens (unopened stops)
  | false =>
    have opens := behindWord_head? takes self leaf r
    cases leaf' : kind'.isLeaf with
    | true =>
      rw [behind, behindWord_of_leaf leaf'] at opens
      exact absurd opens (unopened stops')
    | false =>
      have shapes := Kind.shape_eq_of_word legible legible' self self' leaf leaf' words
      obtain ⟨rfl, inside, rests⟩ := behindWord_inj takes takes' below read below' self leaf shapes
        words behind
      exact ⟨node_displayed_eq_iff.2 ⟨rfl, inside⟩, rests⟩

theorem read_selfContained (regular : (node kind children ty).Regular)
    (read : ∀ c ∈ children, Read text Ends c) (self : kind.isSelfContained = true) :
    Read operandText Stops (node kind children ty) := by
  intro b r s regular' stops stops' equal
  obtain ⟨strings, selves⟩ := operand_form_eq regular regular' equal
  have self' : b.kind.isSelfContained = true := selves ▸ self
  rw [operandText_of_selfContained (node kind children ty) self,
    operandText_of_selfContained b self'] at equal
  cases plain : kind.isString with
  | false =>
    exact read_word regular read self plain regular' self' (strings ▸ plain) stops stops' equal
  | true =>
    obtain ⟨kind', children', ty'⟩ := b
    obtain ⟨v, rfl⟩ := Kind.exists_string plain
    obtain ⟨w, rfl⟩ := Kind.exists_string (strings ▸ plain : kind'.isString = true)
    rw [text_of_string, text_of_string] at equal
    obtain ⟨contents, rests⟩ := Text.doubled_append_inj stops.head?_ne_quote
      stops'.head?_ne_quote (List.tail_eq_of_cons_eq equal)
    obtain rfl : v = w := String.toList_inj.1 contents
    rw [node_displayed_eq_iff, children_of_leaf (regular_node.1 regular).1.1 rfl,
      children_of_leaf (regular_node.1 regular').1.1 rfl]
    exact ⟨⟨rfl, .nil⟩, rests⟩

/-- In parentheses an operand is read as it is without them. -/
theorem read_parenthesized (regular : (node kind children ty).Regular)
    (other : kind.isSelfContained = false) (read : Read text Ends (node kind children ty)) :
    Read operandText Stops (node kind children ty) := by
  intro b r s regular' stops stops' equal
  have other' : b.kind.isSelfContained = false := (operand_form_eq regular regular' equal).2 ▸ other
  rw [operandText_of_not_selfContained (node kind children ty) other,
    operandText_of_not_selfContained b other'] at equal
  obtain ⟨same, closed⟩ := read b _ _ regular' (ends_close r) (ends_close s)
    (List.tail_eq_of_cons_eq equal)
  exact ⟨same, List.tail_eq_of_cons_eq closed⟩

/-- What begins with NOT is a negation. -/
theorem text_ne_not {e : Expr} (regular : e.Regular) (plain : e.kind ≠ .connective .not)
    {r : List Char} (ends : Ends r) (s : List Char) : e.text ++ r ≠ "NOT ".toList ++ s := by
  intro equal
  rw [text_eq_lead regular plain] at equal
  exact operandText_ne_reserved (lead_regular regular) (by decide : "NOT" ∈ Kind.reserved)
    (stops_behindLead ends) s equal

theorem connector_append_not_ends {kind : Kind} {w r : List Char}
    (joined : kind.connector = some w) : ¬ Ends (w ++ r) := by
  have blank : (w ++ r).head? = some ' ' := by
    have first := Kind.connector_head? joined
    cases w with
    | nil => cases first
    | cons c t => exact first
  intro ends
  rcases ends with empty | close | comma | ⟨t, cast⟩
  · rw [empty] at blank
    cases blank
  · rw [close] at blank
    cases blank
  · rw [comma] at blank
    cases blank
  · exact Kind.connector_append_ne_as joined r t cast

/-- After equal first operands, the connectors and what stands behind them agree as well. -/
theorem read_behindLead {b : Expr} {r s : List Char} (regular : (node kind children ty).Regular)
    (plain : kind ≠ .connective .not)
    (read : ∀ c ∈ children, Read text Ends c ∧ Read operandText Stops c) (regular' : b.Regular)
    (plain' : b.kind ≠ .connective .not) (ends : Ends r) (ends' : Ends s)
    (leads : (node kind children ty).lead.displayed = b.lead.displayed)
    (equal : (node kind children ty).behindLead r = b.behindLead s) :
    (node kind children ty).displayed = b.displayed ∧ r = s := by
  obtain ⟨kind', children', ty'⟩ := b
  obtain ⟨⟨takes, -⟩, below⟩ := regular_node.1 regular
  obtain ⟨⟨takes', -⟩, below'⟩ := regular_node.1 regular'
  rcases kind.layout_cases with ⟨self, alone⟩ | negation | ⟨other, v, joined⟩
  · rcases kind'.layout_cases with ⟨self', alone'⟩ | negation' | ⟨other', w, joined'⟩
    · simp only [lead, behindLead, kind_node, self, self', alone, alone', if_true] at leads equal
      exact ⟨leads, equal⟩
    · exact absurd negation' plain'
    · simp only [behindLead, kind_node, alone, joined'] at equal
      exact absurd (equal ▸ ends) (connector_append_not_ends joined')
  · exact absurd negation plain
  · rcases kind'.layout_cases with ⟨self', alone'⟩ | negation' | ⟨other', w, joined'⟩
    · simp only [behindLead, kind_node, joined, alone'] at equal
      exact absurd (equal ▸ ends') (connector_append_not_ends joined)
    · exact absurd negation' plain'
    · obtain ⟨c, cs, rfl, -⟩ := text_of_connector takes joined ty
      obtain ⟨d, ds, rfl, -⟩ := text_of_connector takes' joined' ty'
      simp only [lead, behindLead, kind_node, children_node, joined, joined', other, other',
        List.headD_cons, List.tail_cons, Bool.false_eq_true, if_false] at leads equal
      obtain ⟨rfl, behind⟩ := Kind.connector_append_inj joined joined' equal
      obtain ⟨others, rests⟩ := behindConnector_inj joined takes takes'
        (fun c member => below c (List.mem_cons_of_mem _ member))
        (fun c member => read c (List.mem_cons_of_mem _ member))
        (fun d member => below' d (List.mem_cons_of_mem _ member)) ends ends' behind
      exact ⟨node_displayed_eq_iff.2 ⟨rfl, .cons leads others⟩, rests⟩

theorem read_lead (regular : (node kind children ty).Regular) (plain : kind ≠ .connective .not)
    (read : ∀ c ∈ children, Read text Ends c ∧ Read operandText Stops c) :
    Read operandText Stops (node kind children ty).lead := by
  rcases kind.layout_cases with ⟨self, -⟩ | negation | ⟨other, w, joined⟩
  · simp only [lead, kind_node, self, if_true]
    exact read_selfContained regular (fun c member => (read c member).1) self
  · exact absurd negation plain
  · obtain ⟨c, cs, rfl, -⟩ := text_of_connector (regular_node.1 regular).1.1 joined ty
    simp only [lead, kind_node, other, Bool.false_eq_true, if_false]
    exact (read c List.mem_cons_self).2

theorem read_node (regular : (node kind children ty).Regular)
    (read : ∀ c ∈ children, Read text Ends c ∧ Read operandText Stops c) :
    Read text Ends (node kind children ty) := by
  intro b r s regular' ends ends' equal
  by_cases negation : kind = .connective .not
  · obtain ⟨c, ty', whole, -, text⟩ := text_of_negation regular negation
    obtain ⟨rfl, rfl, rfl⟩ := node.inj whole
    rw [text] at equal
    by_cases negation' : b.kind = .connective .not
    · obtain ⟨d, ty', rfl, below, text'⟩ := text_of_negation regular' negation'
      rw [text'] at equal
      obtain ⟨operands, rests⟩ := (read c List.mem_cons_self).2 d r s below ends.stops ends'.stops
        (List.append_cancel_left equal)
      exact ⟨node_displayed_eq_iff.2 ⟨rfl, .cons operands .nil⟩, rests⟩
    · exact absurd equal.symm (text_ne_not regular' negation' ends' _)
  · by_cases negation' : b.kind = .connective .not
    · obtain ⟨d, ty', -, -, text'⟩ := text_of_negation regular' negation'
      rw [text'] at equal
      exact absurd equal (text_ne_not regular negation ends _)
    · rw [text_eq_lead regular negation, text_eq_lead regular' negation'] at equal
      obtain ⟨leads, behind⟩ := read_lead regular negation read b.lead _ _ (lead_regular regular')
        (stops_behindLead ends) (stops_behindLead ends') equal
      exact read_behindLead regular negation read regular' negation' ends ends' leads behind

end Node

/-- Every regular tree can be read off its text, by itself and as an operand. -/
theorem read_tree {e : Expr} (regular : e.Regular) :
    Read text Ends e ∧ Read operandText Stops e := by
  induction e using children_induction with
  | node kind children ty ih =>
    have below : ∀ c ∈ children, Read text Ends c ∧ Read operandText Stops c :=
      fun c member => ih c member ((regular_node.1 regular).2 c member)
    have whole := read_node regular below
    refine ⟨whole, ?_⟩
    cases self : kind.isSelfContained with
    | true => exact read_selfContained regular (fun c member => (below c member).1) self
    | false => exact read_parenthesized regular self whole

/-! ### The whole text -/

/-- The text shows no ids and no types. -/
theorem sql_displayed (e : Expr) : e.displayed.sql = e.sql := by
  induction e using children_induction with
  | node kind children ty ih =>
    have below : pieces (children.map displayed) = pieces children := by
      rw [pieces_eq_map, pieces_eq_map, List.map_map]
      refine List.map_congr_left fun c member => ?_
      have form : c.displayed.kind.isSelfContained = c.kind.isSelfContained := by
        rw [displayed, kind_mapNodes]
        cases c.kind <;> rfl
      rw [Function.comp_apply, ih c member, form]
    have whole : (node kind children ty).displayed.sql =
        kind.displayed.sql (pieces (children.map displayed)) := by
      rw [displayed, mapNodes_node]
      rfl
    rw [whole, below]
    cases kind <;> rfl

/-- Trees from the constructors have the same text only if they are the same tree, up to the ids of
slot references with the same text. -/
theorem sql_eq_iff_displayed_eq {a b : Expr} (built : Built a) (built' : Built b)
    (legible : ∀ n ∈ a.nodes, n.kind.Legible) (legible' : ∀ n ∈ b.nodes, n.kind.Legible) :
    a.sql = b.sql ↔ a.displayed = b.displayed := by
  constructor
  · intro equal
    have regular : a.Regular := fun n inside => ⟨built_fitsArity built n inside, legible n inside⟩
    have regular' : b.Regular :=
      fun n inside => ⟨built_fitsArity built' n inside, legible' n inside⟩
    have texts : a.text ++ [] = b.text ++ [] := by rw [text, text, equal]
    exact ((read_tree regular).1 b [] [] regular' (Or.inl rfl) (Or.inl rfl) texts).1
  · intro same
    rw [← sql_displayed a, ← sql_displayed b, same]

/-- The AND of a range is not the one of a conjunction, with another AND in a string. -/
theorem range_and_conjunction_told_apart :
    (Expr.and (between (slot ⟨⟨0, 0⟩, ⟨0, 1⟩, some "t.a"⟩) (literal (.string "' AND '"))
      (call "now" []) false) (slot ⟨⟨0, 0⟩, ⟨0, 2⟩, none⟩)).sql ≠
    (between (slot ⟨⟨0, 0⟩, ⟨0, 1⟩, some "t.a"⟩) (literal (.string "' AND '"))
      (Expr.and (call "now" []) (slot ⟨⟨0, 0⟩, ⟨0, 2⟩, none⟩)) false).sql := by
  intro equal
  have label : Text.Qualified "t.a" :=
    ⟨"t", "a", rfl, ⟨'t', [], rfl, by decide, by simp⟩, ⟨'a', [], rfl, by decide, by simp⟩⟩
  have name : Text.Identifier Char.isLower (Text.lower "now").toList := by
    have letters : (Text.lower "now").toList = ['n', 'o', 'w'] := by decide +kernel
    have small : ['o', 'w'].all Char.isLower = true := by decide
    exact ⟨'n', ['o', 'w'], letters, by decide,
      fun c member => Or.inl (List.all_eq_true.1 small c member)⟩
  have column : (slot ⟨⟨0, 0⟩, ⟨0, 1⟩, some "t.a"⟩).Built := .slot _
  have text : (literal (.string "' AND '")).Built := .literal _
  have now : (call "now" []).Built := .call _ (by simp)
  have other : (slot ⟨⟨0, 0⟩, ⟨0, 2⟩, none⟩).Built := .slot _
  have same := (sql_eq_iff_displayed_eq (.and (.between _ column text now) other)
    (.between _ column text (.and now other))
    (by simp [Expr.and, between, slot, literal, call, untyped, nodes_node, Kind.Legible, label,
      name])
    (by simp [Expr.and, between, slot, literal, call, untyped, nodes_node, Kind.Legible, label,
      name])).1 equal
  have kinds := congrArg kind same
  rw [displayed, displayed, kind_mapNodes, kind_mapNodes] at kinds
  cases kinds

end Expr
end ScalarSql

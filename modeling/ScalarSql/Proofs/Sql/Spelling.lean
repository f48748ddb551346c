import ScalarSql.Proofs.Sql.Layout

/-!
Words and connectors tell the kinds they come from. The word of a leaf tells the leaf up to the ids
of a slot reference and is none of the words that SQL puts in front of an expression; a word in
front of a parenthesis tells a cast from a function and from an aggregate. No connector begins
another.
-/
namespace ScalarSql

theorem Aggregate.symbol_inj {op op' : Aggregate} (equal : op.symbol = op'.symbol) :
    op = op' := by
  cases op <;> cases op' <;> first | rfl | exact absurd equal (by decide)

/-- Words in capital letters. -/
def Text.Capital (w : List Char) : Prop := w ≠ [] ∧ w.all Char.isUpper = true

instance (w : List Char) : Decidable (Text.Capital w) :=
  inferInstanceAs (Decidable (_ ∧ _))

theorem Text.Capital.inWord {w : List Char} (capital : Capital w) :
    ∀ c ∈ w, inWord c = true := by
  intro c member
  exact inWord_of_isUpper (List.all_eq_true.1 capital.2 c member)

theorem Aggregate.capital_symbol (op : Aggregate) : Text.Capital op.symbol.toList := by
  cases op <;> decide

theorem DataType.sqlName_inj {t u : DataType} (equal : t.sqlName = u.sqlName) : t = u := by
  have decoded : some t = some u := by
    rw [← DataType.ofSqlName?_sqlName t, ← DataType.ofSqlName?_sqlName u, equal]
  exact Option.some.inj decoded

theorem DataType.sqlName_inWord (t : DataType) : t.sqlName.toList.all Text.inWord = true := by
  cases t <;> decide

namespace SlotRef

variable {ref : SlotRef} (legible : (Kind.slot ref).Legible)
include legible

theorem sql_inWord : ∀ c ∈ ref.sql.toList, Text.inWord c = true := by
  intro c member
  unfold sql at member
  cases labeled : ref.label with
  | some label =>
    rw [labeled] at member
    have qualified : Text.Qualified label := legible label labeled
    exact qualified.inWord member
  | none =>
    rw [labeled, Option.getD_none, String.toList_append, List.mem_append] at member
    rcases member with front | number
    · have letters : "_slot_".toList.all Text.inWord = true := by decide
      exact List.all_eq_true.1 letters c front
    · exact Text.inWord_of_isDigit (Text.isDigit_of_mem_repr number)

/-- A reference has a dot or an underscore in it. -/
theorem separator_mem_sql : '.' ∈ ref.sql.toList ∨ '_' ∈ ref.sql.toList := by
  unfold sql
  cases labeled : ref.label with
  | some label =>
    have qualified : Text.Qualified label := legible label labeled
    exact Or.inl qualified.dot_mem
  | none => exact Or.inr (by simp)

theorem sql_ne_nil : ref.sql.toList ≠ [] := by
  intro empty
  have separator := separator_mem_sql legible
  rw [empty] at separator
  rcases separator with dot | underscore
  · cases dot
  · cases underscore

/-- So it is no word in capital letters, and no number. -/
theorem not_capital_sql : ¬ Text.Capital ref.sql.toList := by
  intro capital
  have letters := List.all_eq_true.1 capital.2
  rcases separator_mem_sql legible with dot | underscore
  · exact absurd (letters '.' dot) (by decide)
  · exact absurd (letters '_' underscore) (by decide)

theorem sql_ne_toString (n : Int) : ref.sql.toList ≠ (toString n).toList := by
  intro equal
  rcases separator_mem_sql legible with dot | underscore
  · rw [equal] at dot
    exact absurd (Text.isDigit_or_sign_of_mem_toString dot) (by decide)
  · rw [equal] at underscore
    exact absurd (Text.isDigit_or_sign_of_mem_toString underscore) (by decide)

end SlotRef

theorem not_capital_toString (n : Int) : ¬ Text.Capital (toString n).toList := by
  rintro ⟨something, letters⟩
  obtain ⟨c, rest, first⟩ := List.exists_cons_of_ne_nil something
  have member : c ∈ (toString n).toList := by
    rw [first]
    exact List.mem_cons_self
  have capital := List.all_eq_true.1 letters c member
  rcases Text.isDigit_or_sign_of_mem_toString member with digit | rfl
  · rw [Text.not_isUpper_of_isDigit digit] at capital
    cases capital
  · exact absurd capital (by decide)

namespace Literal

/-- Constants that are spelled as words. -/
def IsWord : Literal → Prop
  | double _ | string _ => False
  | _ => True

/-- Those among them that are not numbers. -/
def keywords : List Literal := [.null, .boolean true, .boolean false]

theorem keyword_or_int {v : Literal} (word : v.IsWord) : v ∈ keywords ∨ ∃ n, v = .int n := by
  cases v with
  | null => exact Or.inl (by decide)
  | boolean b => exact Or.inl (by cases b <;> decide)
  | int n => exact Or.inr ⟨n, rfl⟩
  | double d => exact word.elim
  | string s => exact word.elim

theorem capital_keyword : ∀ v ∈ keywords, Text.Capital v.sql.toList := by decide

theorem keyword_sql_ne_int {v : Literal} (keyword : v ∈ keywords) (n : Int64) :
    v.sql.toList ≠ (int n).sql.toList := by
  intro equal
  have capital := capital_keyword v keyword
  rw [equal] at capital
  exact not_capital_toString _ capital

theorem sql_inj {v w : Literal} (left : v.IsWord) (right : w.IsWord)
    (equal : v.sql.toList = w.sql.toList) : v = w := by
  rcases keyword_or_int left with keyword | ⟨m, rfl⟩
  · rcases keyword_or_int right with keyword' | ⟨n, rfl⟩
    · have apart : ∀ v ∈ keywords, ∀ w ∈ keywords, v.sql.toList = w.sql.toList → v = w := by decide
      exact apart v keyword w keyword' equal
    · exact absurd equal (keyword_sql_ne_int keyword n)
  · rcases keyword_or_int right with keyword' | ⟨n, rfl⟩
    · exact absurd equal.symm (keyword_sql_ne_int keyword' m)
    · have numbers : m.toInt = n.toInt := Text.toString_inj equal
      rw [Int64.toInt_inj.1 numbers]

theorem sql_inWord {v : Literal} (word : v.IsWord) :
    ∀ c ∈ v.sql.toList, Text.inWord c = true := by
  rcases keyword_or_int word with keyword | ⟨n, rfl⟩
  · exact (capital_keyword v keyword).inWord
  · intro c member
    rcases Text.isDigit_or_sign_of_mem_toString member with digit | rfl
    · exact Text.inWord_of_isDigit digit
    · rfl

theorem sql_ne_nil {v : Literal} (word : v.IsWord) : v.sql.toList ≠ [] := by
  rcases keyword_or_int word with keyword | ⟨n, rfl⟩
  · exact (capital_keyword v keyword).1
  · exact Text.toString_ne_nil _

end Literal

theorem SlotRef.sql_ne_literal {ref : SlotRef} {v : Literal} (legible : (Kind.slot ref).Legible)
    (word : v.IsWord) : ref.sql.toList ≠ v.sql.toList := by
  rcases Literal.keyword_or_int word with keyword | ⟨n, rfl⟩
  · intro equal
    have capital := Literal.capital_keyword v keyword
    rw [← equal] at capital
    exact not_capital_sql legible capital
  · exact sql_ne_toString legible _

namespace Kind

variable {k l : Kind}

theorem capital_cast : Text.Capital "CAST".toList := by decide

theorem cast_ne_symbol (op : Aggregate) : "CAST".toList ≠ op.symbol.toList := by
  cases op <;> decide

theorem isWord_of_legible {value : Literal} (legible : (Kind.literal value).Legible)
    (plain : (Kind.literal value).isString = false) : value.IsWord := by
  cases value with
  | double d => exact legible.elim
  | string s => cases plain
  | _ => trivial

theorem word_inWord (legible : k.Legible) (plain : k.isString = false) :
    ∀ c ∈ k.word, Text.inWord c = true := by
  cases k with
  | slot ref => exact SlotRef.sql_inWord legible
  | literal value => exact Literal.sql_inWord (isWord_of_legible legible plain)
  | cast target => exact capital_cast.inWord
  | call name =>
    intro c member
    have identifier : Text.Identifier Char.isLower name.toList := legible
    exact identifier.inWord (fun _ => Text.isAlpha_of_isLower) member
  | aggregate op distinct => exact op.capital_symbol.inWord
  | _ => exact fun c member => nomatch member

theorem word_ne_nil (legible : k.Legible) (self : k.isSelfContained = true)
    (plain : k.isString = false) : k.word ≠ [] := by
  cases k with
  | slot ref => exact SlotRef.sql_ne_nil legible
  | literal value => exact Literal.sql_ne_nil (isWord_of_legible legible plain)
  | cast target => exact List.cons_ne_nil _ _
  | call name =>
    obtain ⟨first, rest, spelled, -, -⟩ := legible
    rw [word, spelled]
    exact List.cons_ne_nil _ _
  | aggregate op distinct => exact op.capital_symbol.1
  | _ => cases self

/-- The word of a leaf tells the leaf. -/
theorem displayed_eq_of_word (legible : k.Legible) (legible' : l.Legible) (leaf : k.isLeaf = true)
    (leaf' : l.isLeaf = true) (plain : k.isString = false) (plain' : l.isString = false)
    (equal : k.word = l.word) : k.displayed = l.displayed := by
  cases k with
  | slot ref =>
    cases l with
    | slot ref' =>
      have texts : ref.sql = ref'.sql := String.toList_inj.1 equal
      rw [displayed, displayed, texts]
    | literal value =>
      have word := isWord_of_legible legible' plain'
      exact absurd equal (SlotRef.sql_ne_literal legible word)
    | _ => cases leaf'
  | literal value =>
    have word := isWord_of_legible legible plain
    cases l with
    | slot ref => exact absurd equal.symm (SlotRef.sql_ne_literal legible' word)
    | literal value' =>
      have word' := isWord_of_legible legible' plain'
      rw [Literal.sql_inj word word' equal]
    | _ => cases leaf'
  | _ => cases leaf

/-- Words that SQL puts in front of an expression, with a blank behind them. -/
def reserved : List String := ["NOT", "DISTINCT"]

theorem word_ne_reserved (legible : k.Legible) (leaf : k.isLeaf = true)
    (plain : k.isString = false) {w : String} (known : w ∈ reserved) : k.word ≠ w.toList := by
  intro equal
  have capitals : ∀ w ∈ reserved, Text.Capital w.toList := by decide
  have capital : Text.Capital k.word := equal ▸ capitals w known
  cases k with
  | slot ref => exact SlotRef.not_capital_sql legible capital
  | literal value =>
    rcases Literal.keyword_or_int (isWord_of_legible legible plain) with keyword | ⟨n, rfl⟩
    · have apart : ∀ v ∈ Literal.keywords, ∀ w ∈ reserved, v.sql.toList ≠ w.toList := by decide
      exact apart value keyword w known equal
    · exact not_capital_toString _ capital
  | _ => cases leaf

theorem call_word_ne_capital {name : String} (legible : (Kind.call name).Legible)
    {w : List Char} (capital : Text.Capital w) : name.toList ≠ w := by
  rintro rfl
  obtain ⟨c, rest, first⟩ := List.exists_cons_of_ne_nil capital.1
  have member : c ∈ name.toList := by
    rw [first]
    exact List.mem_cons_self
  have identifier : Text.Identifier Char.isLower name.toList := legible
  have upper := List.all_eq_true.1 capital.2 c member
  rw [identifier.not_isUpper member] at upper
  cases upper

/-- A word in front of a parenthesis tells what it opens. -/
theorem shape_eq_of_word (legible : k.Legible) (legible' : l.Legible)
    (self : k.isSelfContained = true) (self' : l.isSelfContained = true)
    (inner : k.isLeaf = false) (inner' : l.isLeaf = false) (equal : k.word = l.word) :
    k.shape = l.shape := by
  cases k with
  | cast target =>
    cases l with
    | cast target' => rfl
    | call name => exact absurd equal.symm (call_word_ne_capital legible' capital_cast)
    | aggregate op distinct => exact absurd equal (cast_ne_symbol op)
    | slot | literal => cases inner'
    | _ => cases self'
  | call name =>
    cases l with
    | cast target' => exact absurd equal (call_word_ne_capital legible capital_cast)
    | call name => rfl
    | aggregate op distinct => exact absurd equal (call_word_ne_capital legible op.capital_symbol)
    | slot | literal => cases inner'
    | _ => cases self'
  | aggregate op distinct =>
    cases l with
    | cast target' => exact absurd equal.symm (cast_ne_symbol op)
    | call name => exact absurd equal.symm (call_word_ne_capital legible' op.capital_symbol)
    | aggregate op distinct => rfl
    | slot | literal => cases inner'
    | _ => cases self'
  | slot | literal => cases inner
  | _ => cases self

/-- All kinds that write a connector. -/
def connected : List Kind :=
  Arithmetic.all.map arithmetic ++ Comparison.all.map comparison ++ Pattern.all.map pattern ++
    [connective .and, connective .or, nullTest false, nullTest true, membership false,
      membership true, range false, range true]

theorem mem_connected {w : List Char} (joined : k.connector = some w) : k ∈ connected := by
  cases k with
  | arithmetic op => cases op <;> decide
  | comparison op => cases op <;> decide
  | pattern op => cases op <;> decide
  | connective op =>
    cases op with
    | not => cases joined
    | and => decide
    | or => decide
  | nullTest negated => cases negated <;> decide
  | membership negated => cases negated <;> decide
  | range negated => cases negated <;> decide
  | _ => cases joined

theorem connectors_apart : ∀ k ∈ connected, ∀ l ∈ connected, ∀ v ∈ k.connector, ∀ w ∈ l.connector,
    v <+: w → k = l := by
  decide +kernel

/-- The connector tells the kind, whatever stands behind it. -/
theorem connector_append_inj {v w r s : List Char} (left : k.connector = some v)
    (right : l.connector = some w) (equal : v ++ r = w ++ s) : k = l ∧ r = s := by
  have kinds : k = l := by
    have begins : v <+: w ++ s := ⟨r, equal⟩
    have begins' : w <+: w ++ s := List.prefix_append w s
    rcases List.prefix_or_prefix_of_prefix begins begins' with shorter | longer
    · exact connectors_apart k (mem_connected left) l (mem_connected right) v left w right shorter
    · exact (connectors_apart l (mem_connected right) k (mem_connected left) w right v left
        longer).symm
  subst kinds
  obtain rfl : v = w := Option.some.inj (left.symm.trans right)
  exact ⟨rfl, List.append_cancel_left equal⟩

theorem connector_head? {w : List Char} (joined : k.connector = some w) :
    w.head? = some ' ' := by
  have blank : ∀ k ∈ connected, ∀ w ∈ k.connector, w.head? = some ' ' := by decide
  exact blank k (mem_connected joined) w joined

/-- No connector can be taken for what stands in front of the target of a cast. -/
theorem connector_append_ne_as {w : List Char} (joined : k.connector = some w) (r s : List Char) :
    w ++ r ≠ " AS ".toList ++ s := by
  intro equal
  have apart : ∀ k ∈ connected, ∀ w ∈ k.connector,
      ¬ w <+: " AS ".toList ∧ ¬ " AS ".toList <+: w := by decide
  obtain ⟨shorter, longer⟩ := apart k (mem_connected joined) w joined
  have begins : w <+: " AS ".toList ++ s := ⟨r, equal⟩
  rcases List.prefix_or_prefix_of_prefix begins (List.prefix_append _ s) with left | right
  · exact shorter left
  · exact longer right

end Kind
end ScalarSql

import ScalarSql.Text.Quoted

/-!
Where a word ends in a text, and where a string literal does. A word goes on to the first character
that no word holds, and a string literal to the first quote that no other quote follows, so each can
be told from whatever stands behind it. Numbers, identifiers and qualified names are words.
-/
namespace ScalarSql.Text

/-- What names, qualified names, keywords and numbers are made of. -/
def inWord (c : Char) : Bool := c.isAlphanum || c == '_' || c == '.' || c == '-'

/-- No word goes on here. -/
def Breaks (r : List Char) : Prop := ∀ c, r.head? = some c → inWord c = false

theorem takeWhile_inWord {w r : List Char} (word : ∀ c ∈ w, inWord c = true) (stop : Breaks r) :
    (w ++ r).takeWhile inWord = w := by
  have empty : r.takeWhile inWord = [] := by
    cases r with
    | nil => rfl
    | cons c r => rw [List.takeWhile_cons, stop c rfl]; rfl
  rw [List.takeWhile_append_of_pos word, empty, List.append_nil]

theorem word_append_inj {v w r s : List Char} (left : ∀ c ∈ v, inWord c = true)
    (right : ∀ c ∈ w, inWord c = true) (stop : Breaks r) (stop' : Breaks s)
    (equal : v ++ r = w ++ s) : v = w ∧ r = s := by
  have words : v = w := by
    rw [← takeWhile_inWord left stop, equal, takeWhile_inWord right stop']
  rw [words] at equal
  exact ⟨words, List.append_cancel_left equal⟩

theorem doubled_cons_quote (cs : List Char) :
    doubled (singleQuote :: cs) = singleQuote :: singleQuote :: doubled cs := rfl

theorem doubled_cons_of_ne {c : Char} (plain : c ≠ singleQuote) (cs : List Char) :
    doubled (c :: cs) = c :: doubled cs := by
  rw [doubled, if_neg plain]

theorem head?_doubled_cons (c : Char) (cs rest : List Char) :
    (doubled (c :: cs) ++ rest).head? = some c := by
  rw [doubled]
  split
  · rfl
  · rfl

/-- A quote in the text is written twice, so it does not end it. -/
theorem doubled_cons_ne_end {c : Char} {cs r rest : List Char}
    (stop : r.head? ≠ some singleQuote) : doubled (c :: cs) ++ rest ≠ singleQuote :: r := by
  intro equal
  have first : c = singleQuote := by
    have heads := congrArg List.head? equal
    rw [head?_doubled_cons] at heads
    exact Option.some.inj heads
  subst first
  rw [doubled_cons_quote] at equal
  have second : r = singleQuote :: (doubled cs ++ rest) := (List.tail_eq_of_cons_eq equal).symm
  apply stop
  rw [second]
  rfl

/-- The first quote that is not written twice ends the text. -/
theorem doubled_append_inj {cs ds r s : List Char} (stop : r.head? ≠ some singleQuote)
    (stop' : s.head? ≠ some singleQuote)
    (equal : doubled cs ++ singleQuote :: r = doubled ds ++ singleQuote :: s) :
    cs = ds ∧ r = s := by
  induction cs generalizing ds with
  | nil =>
    cases ds with
    | nil => exact ⟨rfl, List.tail_eq_of_cons_eq equal⟩
    | cons d ds => exact absurd equal.symm (doubled_cons_ne_end stop)
  | cons c cs ih =>
    cases ds with
    | nil => exact absurd equal (doubled_cons_ne_end stop')
    | cons d ds =>
      have first : c = d := by
        have heads := congrArg List.head? equal
        rw [head?_doubled_cons, head?_doubled_cons] at heads
        exact Option.some.inj heads
      subst first
      have rest : doubled cs ++ singleQuote :: r = doubled ds ++ singleQuote :: s := by
        by_cases quote : c = singleQuote
        · subst quote
          exact List.tail_eq_of_cons_eq (List.tail_eq_of_cons_eq equal)
        · rw [doubled_cons_of_ne quote, doubled_cons_of_ne quote] at equal
          exact List.tail_eq_of_cons_eq equal
      obtain ⟨rfl, rests⟩ := ih rest
      exact ⟨rfl, rests⟩

theorem isDigit_of_mem_repr {n : Nat} {c : Char} (member : c ∈ n.repr.toList) :
    c.isDigit = true := by
  rw [Nat.repr_eq_ofList_toDigits, String.toList_ofList] at member
  exact Nat.isDigit_of_mem_toDigits (by decide) (by decide) member

/-- Numbers have digits, and perhaps a sign, in them and nothing else. -/
theorem isDigit_or_sign_of_mem_toString {v : Int} {c : Char} (member : c ∈ (toString v).toList) :
    c.isDigit = true ∨ c = '-' := by
  rw [Int.toString_eq_repr, Int.repr_eq_if] at member
  split at member
  · exact Or.inl (isDigit_of_mem_repr member)
  · rw [String.toList_append, List.mem_append] at member
    rcases member with sign | inside
    · exact Or.inr (List.mem_singleton.1 sign)
    · exact Or.inl (isDigit_of_mem_repr inside)

theorem toString_ne_nil (v : Int) : (toString v).toList ≠ [] := by
  have digits : ∀ n : Nat, n.repr.toList ≠ [] := fun n empty =>
    Nat.repr_ne_empty (String.toList_eq_nil_iff.1 empty)
  rw [Int.toString_eq_repr, Int.repr_eq_if]
  split
  · exact digits _
  · rw [String.toList_append]
    exact List.append_ne_nil_of_right_ne_nil _ (digits _)

/-- The digits of a number are read back as the number. -/
theorem repr_inj {m n : Nat} (equal : m.repr.toList = n.repr.toList) : m = n := by
  simp only [Nat.repr_eq_ofList_toDigits, String.toList_ofList] at equal
  rw [← Nat.ofDigitChars_ten_toDigits (n := m), equal, Nat.ofDigitChars_ten_toDigits]

/-- Digits do not begin with a sign, so the text of a number tells the number. -/
theorem toString_inj {v w : Int} (equal : (toString v).toList = (toString w).toList) : v = w := by
  have unsigned : ∀ {n : Nat} {rest : List Char}, n.repr.toList ≠ '-' :: rest := by
    intro n rest signed
    have sign : '-' ∈ n.repr.toList := signed ▸ List.mem_cons_self
    exact absurd (isDigit_of_mem_repr sign) (by decide)
  simp only [Int.toString_eq_repr, Int.repr_eq_if] at equal
  split at equal
  next =>
    split at equal
    next =>
      have numbers := repr_inj equal
      omega
    next =>
      rw [String.toList_append] at equal
      exact absurd equal unsigned
  next =>
    split at equal
    next =>
      rw [String.toList_append] at equal
      exact absurd equal.symm unsigned
    next =>
      rw [String.toList_append, String.toList_append] at equal
      have numbers := repr_inj (List.append_cancel_left equal)
      omega

theorem inWord_of_isDigit {c : Char} (digit : c.isDigit = true) : inWord c = true := by
  simp [inWord, Char.isAlphanum, digit]

theorem isAlpha_of_isUpper {c : Char} (capital : c.isUpper = true) : c.isAlpha = true := by
  show (c.isUpper || c.isLower) = true
  rw [capital, Bool.true_or]

theorem isAlpha_of_isLower {c : Char} (small : c.isLower = true) : c.isAlpha = true := by
  show (c.isUpper || c.isLower) = true
  rw [small, Bool.or_true]

theorem inWord_of_isUpper {c : Char} (capital : c.isUpper = true) : inWord c = true := by
  simp [inWord, Char.isAlphanum, isAlpha_of_isUpper capital]

/-- Capital letters have the codes from 65 to 90. -/
theorem not_isUpper_of_outside {c : Char} (outside : c.val.toNat < 65 ∨ 90 < c.val.toNat) :
    c.isUpper = false := by
  apply Bool.eq_false_iff.2
  intro capital
  have range : 'A'.val ≤ c.val ∧ c.val ≤ 'Z'.val := of_decide_eq_true capital
  have least : 65 ≤ c.val.toNat := UInt32.le_iff_toNat_le.1 range.1
  have greatest : c.val.toNat ≤ 90 := UInt32.le_iff_toNat_le.1 range.2
  omega

theorem not_isUpper_of_isDigit {c : Char} (digit : c.isDigit = true) : c.isUpper = false := by
  apply not_isUpper_of_outside
  have bound : c.val ≤ '9'.val := of_decide_eq_true (Bool.and_eq_true_iff.1 digit).2
  have greatest : c.val.toNat ≤ 57 := UInt32.le_iff_toNat_le.1 bound
  omega

theorem not_isUpper_of_isLower {c : Char} (small : c.isLower = true) : c.isUpper = false := by
  apply not_isUpper_of_outside
  have bound : 'a'.val ≤ c.val := of_decide_eq_true (Bool.and_eq_true_iff.1 small).1
  have least : 97 ≤ c.val.toNat := UInt32.le_iff_toNat_le.1 bound
  omega

/-- A letter or underscore, followed by letters, digits and underscores. -/
def Identifier (letter : Char → Bool) (cs : List Char) : Prop :=
  ∃ first rest, cs = first :: rest ∧ (letter first = true ∨ first = '_') ∧
    ∀ c ∈ rest, letter c = true ∨ c.isDigit = true ∨ c = '_'

/-- Two identifiers with a dot between them. -/
def Qualified (s : String) : Prop :=
  ∃ qualifier name : String, s = qualifier ++ "." ++ name ∧
    Identifier Char.isAlpha qualifier.toList ∧ Identifier Char.isAlpha name.toList

theorem Identifier.char {letter : Char → Bool} {cs : List Char}
    (identifier : Identifier letter cs) {c : Char} (member : c ∈ cs) :
    letter c = true ∨ c.isDigit = true ∨ c = '_' := by
  obtain ⟨first, rest, rfl, start, others⟩ := identifier
  rcases List.mem_cons.1 member with rfl | later
  · exact start.imp_right Or.inr
  · exact others c later

theorem Identifier.inWord {letter : Char → Bool} {cs : List Char}
    (identifier : Identifier letter cs) (letters : ∀ c, letter c = true → c.isAlpha = true)
    {c : Char} (member : c ∈ cs) : inWord c = true := by
  rcases identifier.char member with small | digit | rfl
  · simp [Text.inWord, Char.isAlphanum, letters c small]
  · exact inWord_of_isDigit digit
  · rfl

/-- There is no capital letter in a name in lower case. -/
theorem Identifier.not_isUpper {cs : List Char} (identifier : Identifier Char.isLower cs)
    {c : Char} (member : c ∈ cs) : c.isUpper = false := by
  rcases identifier.char member with small | digit | rfl
  · exact not_isUpper_of_isLower small
  · exact not_isUpper_of_isDigit digit
  · rfl

theorem Qualified.inWord {s : String} (qualified : Qualified s) {c : Char}
    (member : c ∈ s.toList) : inWord c = true := by
  obtain ⟨qualifier, name, rfl, left, right⟩ := qualified
  simp only [String.toList_append, List.mem_append] at member
  rcases member with (before | dot) | after
  · exact left.inWord (fun _ letter => letter) before
  · rw [List.mem_singleton.1 dot]
    rfl
  · exact right.inWord (fun _ letter => letter) after

theorem Qualified.dot_mem {s : String} (qualified : Qualified s) : '.' ∈ s.toList := by
  obtain ⟨qualifier, name, rfl, -, -⟩ := qualified
  simp

end ScalarSql.Text

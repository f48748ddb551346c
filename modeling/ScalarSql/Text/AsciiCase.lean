/-!
Names told apart only beyond ASCII case: A to Z fold to a to z and every other character stands
for itself.
-/
namespace ScalarSql.Text

def asciiFold (s : String) : List Char := s.toList.map Char.toLower

def alike (a b : String) : Bool := asciiFold a == asciiFold b

theorem alike_iff {a b : String} : alike a b = true ↔ asciiFold a = asciiFold b := by
  simp [alike]

theorem alike_refl (a : String) : alike a a = true := alike_iff.2 rfl

theorem alike_symm {a b : String} (h : alike a b = true) : alike b a = true :=
  alike_iff.2 (alike_iff.1 h).symm

theorem alike_trans {a b c : String} (hab : alike a b = true) (hbc : alike b c = true) :
    alike a c = true :=
  alike_iff.2 ((alike_iff.1 hab).trans (alike_iff.1 hbc))

end ScalarSql.Text

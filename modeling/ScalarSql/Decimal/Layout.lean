import ScalarSql.Decimal.Shortest

/-!
Writing a decimal: positionally with a point while the exponent of its leading digit lies in a
window, and with an exponent outside it.
-/
namespace ScalarSql.Decimal

structure Layout where
  /-- The least exponent of the leading digit that is written positionally. -/
  firstPositional : Int
  /-- The first exponent above the positional ones. -/
  endPositional : Int
  exponentMark : String
  infinity : String
  notANumber : String

def zeros (n : Nat) : String := String.ofList (List.replicate n '0')

/-- The point stands after the first `point` of the digits, filled up with zeros on both sides. -/
def positional (digits : List Char) (point : Int) : String :=
  if point ≤ 0 then "0." ++ zeros (-point).toNat ++ String.ofList digits
  else
    let whole := point.toNat
    if digits.length ≤ whole then
      String.ofList digits ++ zeros (whole - digits.length) ++ ".0"
    else String.ofList (digits.take whole) ++ "." ++ String.ofList (digits.drop whole)

def scientific (mark : String) (digits : List Char) (exponent : Int) : String :=
  let fraction := digits.drop 1
  String.ofList (digits.take 1) ++ (if fraction.isEmpty then "" else "." ++ String.ofList fraction)
    ++ mark ++ toString exponent

def Layout.write (layout : Layout) (d : Digits) : String :=
  let digits := Nat.toDigits 10 d.digits
  let point := d.scale + digits.length
  if d.digits == 0 || layout.firstPositional ≤ point - 1 && point - 1 < layout.endPositional then
    positional digits point
  else scientific layout.exponentMark digits (point - 1)

end ScalarSql.Decimal

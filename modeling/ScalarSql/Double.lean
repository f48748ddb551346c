import ScalarSql.Decimal.Layout

/-!
DOUBLE values, 64-bit binary floating point. They are kept as bits: two of them are the same if
all bits agree, also for NaNs and for the two zeros.
-/
namespace ScalarSql

structure Double where
  bits : UInt64
  deriving DecidableEq

namespace Double

def isNegative (x : Double) : Bool := Nat.pow 2 63 ≤ x.bits.toNat

def exponentField (x : Double) : Nat := x.bits.toNat / Nat.pow 2 52 % Nat.pow 2 11

def fraction (x : Double) : Nat := x.bits.toNat % Nat.pow 2 52

/-- The magnitude of a finite value. The least exponent field has no hidden bit. -/
def magnitude (x : Double) : Decimal.Binary :=
  if x.exponentField == 0 then ⟨x.fraction, -1074, false⟩
  else ⟨Nat.pow 2 52 + x.fraction, x.exponentField - 1075,
    x.fraction == 0 && 1 < x.exponentField⟩

/-- Doubles are written positionally from 1e-4 up to 1e16, exclusive. -/
def layout : Decimal.Layout where
  firstPositional := -4
  endPositional := 16
  exponentMark := "e"
  infinity := "inf"
  notANumber := "NaN"

/-- A NaN shows neither sign nor payload. -/
def text (x : Double) : String :=
  let sign := if x.isNegative then "-" else ""
  if x.exponentField == 2047 then
    if x.fraction == 0 then sign ++ layout.infinity else layout.notANumber
  else if x.magnitude.mantissa == 0 then sign ++ "0.0"
  else sign ++ layout.write x.magnitude.shortest

end Double
end ScalarSql

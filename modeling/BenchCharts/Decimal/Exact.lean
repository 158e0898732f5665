/-!
The exact value of a double, as a sign and a rational magnitude, and rounding to the nearest whole
number.
-/

namespace BenchCharts.Decimal

inductive Exact where
  | nan
  | infinite (negative : Bool)
  | finite (negative : Bool) (magnitude : Rat)

/-- `2 ^ e` for an exponent of either sign. -/
def powTwo (e : Int) : Rat :=
  if 0 ≤ e then (Nat.pow 2 e.toNat : Rat) else mkRat 1 (Nat.pow 2 (-e).toNat)

/-- `10 ^ e` for an exponent of either sign. -/
def powTen (e : Int) : Rat :=
  if 0 ≤ e then (Nat.pow 10 e.toNat : Rat) else mkRat 1 (Nat.pow 10 (-e).toNat)

/-- Decodes the fields of a double: one sign bit, eleven of exponent and 52 of fraction. -/
def Exact.ofBits (bits : UInt64) : Exact :=
  let negative := bits >>> 63 == 1
  let exponent := ((bits >>> 52) &&& 0x7FF).toNat
  let fraction := (bits &&& 0xFFFFFFFFFFFFF).toNat
  if exponent = 0x7FF then
    if fraction = 0 then .infinite negative else .nan
  else if exponent = 0 then .finite negative ((fraction : Rat) * powTwo (-1074))
  else
    let significand := Nat.pow 2 52 + fraction
    .finite negative ((significand : Rat) * powTwo ((exponent : Int) - 1075))

def Exact.ofFloat (x : Float) : Exact :=
  Exact.ofBits x.toBits

/-- The whole number nearest to a non-negative rational; a half goes to the even neighbour. -/
def roundHalfEven (q : Rat) : Nat :=
  let n := q.num.toNat
  let whole := n / q.den
  let twice := 2 * (n % q.den)
  if twice < q.den then whole
  else if q.den < twice then whole + 1
  else if whole % 2 = 0 then whole
  else whole + 1

end BenchCharts.Decimal

import BenchCharts.Decimal.Fixed

/-!
The fewest digits that read back as the same double.
-/

namespace BenchCharts.Decimal

/-- Significant digits and the power of ten at the last of them. -/
structure Digits where
  significand : Nat
  power : Int

def Digits.toFloat (d : Digits) : Float :=
  Float.ofScientific d.significand (d.power < 0) d.power.natAbs

/-- The nearer of the two neighbours of `q` on the grid of multiples of `10 ^ power`, of those that
read back as `x`. -/
def gridNeighbour? (x : Float) (q : Rat) (power : Int) : Option Digits :=
  let position := q * powTen (-power)
  let below : Digits := ⟨position.num.toNat / position.den, power⟩
  let above : Digits := ⟨below.significand + 1, power⟩
  let readsBack (d : Digits) : Bool := d.toFloat.toBits == x.toBits
  match readsBack below, readsBack above with
  | true, true =>
    some (if roundHalfEven position = below.significand then below else above)
  | true, false => some below
  | false, true => some above
  | false, false => none

/-- The fewest digits of the positive double `x`, whose exact value is `q`. -/
def shortest (x : Float) (q : Rat) : Digits :=
  let top := leadingPower q
  ((List.range 17).findSome? fun n : Nat => gridNeighbour? x q (top - n)).getD
    ⟨roundHalfEven (q * powTen (17 - top)), top - 17⟩

end BenchCharts.Decimal

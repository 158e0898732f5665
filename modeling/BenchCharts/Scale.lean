import BenchCharts.Decimal.Numeral

/-!
Vertical scales of charts.
-/

namespace BenchCharts

inductive Scale where
  | linear
  | log
  /-- Logarithmic beyond the threshold on both sides of zero, linear between. -/
  | symlog (threshold : Float)

namespace Scale

/-- One with the sign of `x`; what is not a number stays so. -/
def signOf (x : Float) : Float :=
  if x.isNaN then x else if x.toBits >>> 63 == 1 then -1.0 else 1.0

/-- Where a value lies on the axis as it is drawn. A log scale has no place for zero and below. -/
def forward : Scale → Float → Float
  | linear, x => x
  | log, x => if 0.0 < x then x.log10 else Decimal.nan
  | symlog threshold, x => signOf x * (1.0 + x.abs / threshold).log10

def inverse : Scale → Float → Float
  | linear, t => t
  | log, t => (10.0 : Float).pow t
  | symlog threshold, t => signOf t * threshold * ((10.0 : Float).pow t.abs - 1.0)

def describe : Scale → String
  | linear => ""
  | log => ", log scale"
  | symlog _ => ", symlog scale"

def isLinear : Scale → Bool
  | linear => true
  | _ => false

end Scale

end BenchCharts

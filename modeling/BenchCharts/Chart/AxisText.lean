import BenchCharts.Decimal.Fixed

/-!
Compact texts of the values along an axis: `0.25`, `12.5`, `340`, `12k`, `3.4M`.
-/

namespace BenchCharts.Chart

open Decimal

/-- Drops the zeros at the end of a fraction, and the point with the last of them. -/
def trimFraction (s : List Char) : List Char :=
  if s.contains '.' then
    let r := s.reverse.dropWhile (· == '0')
    (match r with
      | '.' :: r => r
      | r => r).reverse
  else s

/-- The text of a value of the given sign and magnitude; the magnitude is also given in thousands
and in millions. -/
def magnitudeText (negative : Bool) (ones thousands millions : Rat) : List Char :=
  if 1000000 ≤ ones then trimFraction (fixed 1 negative millions) ++ ['M']
  else if 10000 ≤ ones then trimFraction (fixed 1 negative thousands) ++ ['k']
  else if 100 ≤ ones then fixed 0 negative ones
  else if 1 ≤ ones then trimFraction (fixed 1 negative ones)
  else if 1 / 1000 ≤ ones then trimFraction (fixed 3 negative ones)
  else if ones = 0 then ['0']
  else scientific 0 negative ones

/-- The distance of a finite double from zero. -/
def magnitude (x : Float) : Rat :=
  match Exact.ofFloat x with
  | .finite _ q => q
  | _ => 0

def axisText (x : Float) : List Char :=
  match Exact.ofFloat x with
  | .nan => "NaN".toList
  | .infinite negative => signText negative ++ "infM".toList
  | .finite negative q =>
    magnitudeText negative q (magnitude (x / 1000.0)) (magnitude (x / 1000000.0))

end BenchCharts.Chart

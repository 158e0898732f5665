import BenchCharts.Chart

/-!
Dash patterns, and the pieces of a legend swatch that are drawn.
-/

namespace BenchCharts.Dash

/-- Lengths of dash and gap in pixels; a solid line has neither. -/
def pattern? : Dash → Option (Nat × Nat)
  | solid => none
  | dashed => some (10, 6)
  | dotted => some (2, 5)
  | dashDot => some (12, 4)

/-- The place `n` pixels behind `start`. Places are numbers of 32 bits with a sign, and a sum that
is none wraps around. -/
def placeBehind (start : Int) (n : Nat) : Int := (start + n).bmod (Nat.pow 2 32)

/-- Pieces of `on` pixels with gaps of `off` pixels, the last piece cut off at `length`. -/
def pieces (on off : Nat) (length : Int) : List (Int × Int) :=
  let period := on + off
  (List.range ((length.toNat + period - 1) / period)).map fun (k : Nat) =>
    let start : Int := ((k * period : Nat) : Int)
    (start, min (placeBehind start on) length)

/-- The drawn pieces of a swatch, from the first pixel of each up to the one behind it. -/
def swatch (dash : Dash) (length : Int) : List (Int × Int) :=
  match dash.pattern? with
  | none => [(0, length)]
  | some (on, off) => pieces on off length

end BenchCharts.Dash

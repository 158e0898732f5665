import BenchCharts.Chart

/-!
The vertical extent of a chart: it covers every line and every guide, with room to spare, and a
linear axis starts at zero if nothing lies below.
-/

namespace BenchCharts.Chart

section
variable {α : Type} [Add α] [Sub α] [Mul α] [Neg α] [Min α] [Max α] [LE α] [DecidableLE α]
  [OfScientific α] [OfNat α 0] [OfNat α 1]

/-- The least and the greatest of some numbers. -/
def bounds? : List α → Option (α × α)
  | [] => none
  | y :: ys => some (ys.foldl min y, ys.foldl max y)

/-- The room left above the greatest number, and below the least one. -/
def padding (linear : Bool) (low high : α) : α :=
  let share := (high - low) * 0.08
  if linear then max (max share (max high (-high) * 0.05)) 1e-9 else max share 0.2

def extentOf (linear : Bool) (ys : List α) : α × α :=
  match bounds? ys with
  | none => (0, 1)
  | some (low, high) =>
    let pad := padding linear low high
    (if linear ∧ 0 ≤ low then 0 else low - pad, high + pad)

end

/-- Every value of a line or a guide as it lies on the axis. -/
def images (chart : Chart) : List Float :=
  (chart.lines.flatMap (·.values) ++ chart.references.map (·.value)).map chart.scale.forward

def extent (chart : Chart) : Float × Float :=
  extentOf chart.scale.isLinear (chart.images.filter Float.isFinite)

end BenchCharts.Chart

import BenchCharts.Chart

/-!
The pieces of a line. A value without a place on the axis is a gap.
-/

namespace BenchCharts

/-- A run under way, if it holds anything. -/
def closeRun (run : List α) : List (List α) :=
  if run.isEmpty then [] else [run]

/-- The maximal runs without a gap, where `run` is the one under way. -/
def runsAfter (run : List α) : List (Option α) → List (List α)
  | [] => closeRun run
  | some a :: xs => runsAfter (run ++ [a]) xs
  | none :: xs => closeRun run ++ runsAfter [] xs

/-- The maximal runs without a gap. -/
def runs (xs : List (Option α)) : List (List α) :=
  runsAfter [] xs

namespace Chart

/-- The place of a value on the axis, if it has one. -/
def place? (scale : Scale) (x : Float) : Option Float :=
  let y := scale.forward x
  if y.isFinite then some y else none

/-- The runs of points that are joined by a line, each point with its index. -/
def segments (scale : Scale) (values : List Float) : List (List (Nat × Float)) :=
  runs (values.zipIdx.map fun (x, index) => (place? scale x).map ((index, ·)))

end Chart

end BenchCharts

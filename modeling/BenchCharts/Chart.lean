import BenchCharts.Scale
import BenchCharts.Theme
import BenchCharts.TimeUnit

/-!
Charts: all that is needed to draw one.
-/

namespace BenchCharts

inductive Marker where
  | circle
  | square
  | triangle
  | diamond
  | cross
  deriving DecidableEq, Repr

/-- The marker of a source, by its place in the configuration. -/
def Marker.ofIndex (index : Nat) : Marker :=
  match index % 5 with
  | 0 => circle
  | 1 => square
  | 2 => triangle
  | 3 => diamond
  | _ => cross

inductive Dash where
  | solid
  | dashed
  | dotted
  | dashDot
  deriving DecidableEq, Repr

/-- The dash of a group, by its place in the report. -/
def Dash.ofIndex (index : Nat) : Dash :=
  match index % 4 with
  | 0 => solid
  | 1 => dashed
  | 2 => dotted
  | _ => dashDot

/-- A line of a chart, with one value for each tick. What is not a number is a gap. -/
structure Line where
  label : String
  values : List Float
  color : Color
  marker : Marker
  dash : Dash

def Line.hasValue (line : Line) : Bool :=
  line.values.any (!·.isNaN)

structure Reference where
  value : Float
  label : Option String

def Reference.hundredMicros (unit : TimeUnit) : Reference :=
  ⟨unit.ofNanos 100000.0, "100 µs"⟩

structure Chart where
  title : String
  xLabel : String := ""
  yLabel : String := ""
  ticks : List String
  lines : List Line := []
  scale : Scale := .linear
  references : List Reference := []

namespace Chart

def blank (title : String) (ticks : List String) : Chart := { title, ticks }

def addLine (chart : Chart) (line : Line) : Chart :=
  if line.hasValue then { chart with lines := chart.lines ++ [line] } else chart

def addLines (chart : Chart) (lines : List Line) : Chart :=
  lines.foldl addLine chart

def addReference (chart : Chart) (reference : Reference) : Chart :=
  { chart with references := chart.references ++ [reference] }

def isBlank (chart : Chart) : Bool :=
  chart.lines.isEmpty

theorem addLine_eq (chart : Chart) (line : Line) :
    chart.addLine line = { chart with lines := chart.lines ++ [line].filter Line.hasValue } := by
  unfold addLine
  cases h : line.hasValue <;> simp [h]

theorem addLines_eq (chart : Chart) (lines : List Line) :
    chart.addLines lines = { chart with lines := chart.lines ++ lines.filter Line.hasValue } := by
  induction lines generalizing chart with
  | nil => simp [addLines]
  | cons line lines ih =>
    have h : chart.addLines (line :: lines) = (chart.addLine line).addLines lines := rfl
    rw [h, ih, addLine_eq, List.append_assoc, ← List.filter_append, List.singleton_append]

theorem lines_addLine (chart : Chart) (line : Line) :
    (chart.addLine line).lines = chart.lines ++ [line].filter Line.hasValue := by
  rw [addLine_eq]

theorem lines_addLines (chart : Chart) (lines : List Line) :
    (chart.addLines lines).lines = chart.lines ++ lines.filter Line.hasValue := by
  rw [addLines_eq]

end Chart

end BenchCharts

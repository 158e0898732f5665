import BenchCharts.Canvas
import BenchCharts.Chart.AxisText
import BenchCharts.Chart.Extent
import BenchCharts.Chart.Segments
import BenchCharts.Chart.Swatch
import BenchCharts.Raster

/-!
Draws a chart: a title, a frame with a grid and labels, the guides, the lines and a legend.
-/

namespace BenchCharts

/-- The places around the middle of a marker that it covers. -/
def Marker.covers (marker : Marker) (dx dy : Int) : Bool :=
  match marker with
  | circle => dx * dx + dy * dy ≤ 25
  | square => max dx.natAbs dy.natAbs ≤ 5
  | triangle => -5 ≤ dy && dy ≤ 5 && 2 * dx.natAbs ≤ dy + 6
  | diamond => dx.natAbs + dy.natAbs ≤ 6
  | cross =>
    max dx.natAbs dy.natAbs ≤ 5 && ((dx - dy).natAbs ≤ 1 || (dx + dy).natAbs ≤ 1)

namespace Chart

def markerReach : Nat := 6

def swatchLength : Nat := 36

def lineWidth : Nat := 2

/-- Where the parts of a chart lie on a canvas. -/
structure Layout where
  scale : Nat
  left : Nat
  top : Nat
  width : Nat
  height : Nat
  low : Float
  high : Float
  places : Nat

namespace Layout

def of (chart : Chart) (width height : Nat) : Layout :=
  let scale := max 1 (width / 640)
  let left := 55 * scale
  let top := 24 * scale
  let (low, high) := chart.extent
  { scale, left, top, low, high
    width := width - left - 10 * scale
    height := height - top - 34 * scale
    places := max 1 chart.ticks.length }

def bottom (layout : Layout) : Nat := layout.top + layout.height

def column (layout : Layout) (index : Nat) : Int :=
  layout.left + (2 * index + 1) * layout.width / (2 * layout.places)

def row (layout : Layout) (y : Float) : Int :=
  let share := (layout.high - y) / (layout.high - layout.low)
  layout.top + (share * Float.ofNat layout.height).round.toInt64.toInt

def point (layout : Layout) (place : Nat × Float) : Int × Int :=
  (layout.column place.1, layout.row place.2)

/-- The values at which the vertical axis has labels. -/
def levels (layout : Layout) : List Float :=
  (List.range 11).map fun k =>
    layout.low + (layout.high - layout.low) * Float.ofNat k / 10.0

end Layout

def writeCentered (canvas : Canvas) (color : Color) (scale : Nat) (x y : Int) (text : List Char) :
    Canvas :=
  canvas.writeAcross color scale (x - Canvas.textWidth scale text / 2) y text

def paintGrid (chart : Chart) (theme : Theme) (layout : Layout) (canvas : Canvas) : Canvas :=
  let canvas := canvas.fillBox theme.axes layout.left layout.top layout.width layout.height
  let canvas := layout.levels.foldl (fun canvas y =>
    let text := axisText (chart.scale.inverse y)
    let row := layout.row y
    let canvas := canvas.fillBox theme.grid layout.left row layout.width 1
    let start : Int := layout.left - Canvas.textWidth layout.scale text - 3 * layout.scale
    canvas.writeAcross theme.text layout.scale start (row - 3 * layout.scale) text) canvas
  let canvas := chart.ticks.zipIdx.foldl (fun canvas (tick, index) =>
    writeCentered canvas theme.text layout.scale (layout.column index)
      (layout.bottom + 5 * layout.scale) tick.toList) canvas
  canvas.frameBox theme.edge layout.left layout.top layout.width layout.height

def paintTexts (chart : Chart) (theme : Theme) (layout : Layout) (canvas : Canvas) : Canvas :=
  let canvas := writeCentered canvas theme.title (layout.scale + 1) (canvas.width / 2)
    (7 * layout.scale) chart.title.toList
  let canvas := writeCentered canvas theme.text layout.scale (layout.left + layout.width / 2)
    (layout.bottom + 20 * layout.scale) chart.xLabel.toList
  let y := chart.yLabel.toList
  canvas.writeUpwards theme.text layout.scale (4 * layout.scale)
    (layout.top + (layout.height + Canvas.textWidth layout.scale y) / 2) y

def paintReference (chart : Chart) (theme : Theme) (layout : Layout) (canvas : Canvas)
    (reference : Reference) : Canvas :=
  match place? chart.scale reference.value with
  | none => canvas
  | some y =>
    let row := layout.row y
    let right : Int := layout.left + layout.width
    let canvas := canvas.stroke theme.reference 1 (some (8, 6)) (layout.left, row) (right, row)
    match reference.label with
    | none => canvas
    | some label =>
      let label := label.toList
      canvas.writeAcross theme.referenceText layout.scale
        (right - Canvas.textWidth layout.scale label - 4) (row - 9 * layout.scale) label

def paintLine (chart : Chart) (layout : Layout) (canvas : Canvas) (line : Line) : Canvas :=
  (segments chart.scale line.values).foldl (fun canvas run =>
    let points := run.map layout.point
    let canvas := canvas.polyline line.color lineWidth line.dash.pattern? points
    points.foldl (fun canvas p => canvas.stamp line.color markerReach line.marker.covers p) canvas)
    canvas

def paintLegend (chart : Chart) (theme : Theme) (layout : Layout) (canvas : Canvas) : Canvas :=
  let rowHeight := 7 * layout.scale + 10
  let widest := chart.lines.foldl (fun n line =>
    max n (Canvas.textWidth layout.scale line.label.toList)) 0
  let x : Int := layout.left + 10
  let y : Int := layout.top + 10
  let width := 30 + swatchLength + widest
  let height := 20 + rowHeight * chart.lines.length
  let canvas := canvas.fillBox theme.axes x y width height
  let canvas := canvas.frameBox theme.legendEdge x y width height
  chart.lines.zipIdx.foldl (fun canvas (line, index) =>
    let row : Int := y + 10 + rowHeight * index + rowHeight / 2
    let canvas := (line.dash.swatch swatchLength).foldl (fun canvas (first, last) =>
      canvas.stroke line.color lineWidth none (x + 10 + first, row) (x + 10 + last, row)) canvas
    let middle : Int := x + 10 + swatchLength / 2
    let canvas := canvas.stamp line.color markerReach line.marker.covers (middle, row)
    canvas.writeAcross theme.text layout.scale (x + 20 + swatchLength) (row - 3 * layout.scale)
      line.label.toList) canvas

def paint (chart : Chart) (theme : Theme) (width height : Nat) : Canvas :=
  let layout := Layout.of chart width height
  let canvas := Canvas.blank width height theme.background
  let canvas := chart.paintTexts theme layout (chart.paintGrid theme layout canvas)
  let canvas := chart.references.foldl (chart.paintReference theme layout) canvas
  let canvas := chart.lines.foldl (chart.paintLine layout) canvas
  if chart.lines.isEmpty then canvas else chart.paintLegend theme layout canvas

/-- The picture of the chart. It is drawn when its first pixel is asked for. -/
def drawing (chart : Chart) (theme : Theme) (width height : Nat) : Raster :=
  let canvas : Thunk Canvas := .mk fun _ => chart.paint theme width height
  ⟨width, height, fun x y => .opaqueOf (canvas.get.colorAt x y)⟩

end Chart

end BenchCharts

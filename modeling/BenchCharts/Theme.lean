import BenchCharts.Color
import BenchCharts.Fields
import BenchCharts.Text.Case

/-!
The colors of charts.
-/

namespace BenchCharts

structure Theme where
  background : Color
  axes : Color
  edge : Color
  text : Color
  title : Color
  grid : Color
  legendEdge : Color
  reference : Color
  referenceText : Color
  /-- Fixed colors of groups, by lower-case name. -/
  groupColors : Fields Color
  /-- Fixed colors of sources. -/
  sourceColors : Fields Color
  /-- Colors of all but the first group of a source. -/
  sourceAccents : Fields Color
  /-- The colors that anything else takes in turn. -/
  palette : List Color
  deriving Inhabited

namespace Theme

def standard : Theme where
  background := .ofHex 0x0f1116
  axes := .ofHex 0x111318
  edge := .ofHex 0xc7c7c7
  text := .ofHex 0xe6e6e6
  title := .ofHex 0xf0f0f0
  grid := .ofHex 0x3a3f4b
  legendEdge := .ofHex 0x2a2f3a
  reference := .ofHex 0xa0a0a0
  referenceText := .ofHex 0xb8b8b8
  groupColors := [
    ("knitting", .ofHex 0x1f77b4),
    ("worker", .ofHex 0xff7f0e),
    ("websocket", .ofHex 0x2ca02c),
    ("http", .ofHex 0xd62728)]
  sourceColors := [
    ("Node.js", .ofHex 0x1f77b4),
    ("Deno", .ofHex 0x2ca02c),
    ("Bun", .ofHex 0xd62728)]
  sourceAccents := [
    ("Node.js", .ofHex 0xaec7e8),
    ("Deno", .ofHex 0x98df8a),
    ("Bun", .ofHex 0xff9896)]
  palette := [
    .ofHex 0x1f77b4, .ofHex 0xff7f0e, .ofHex 0x2ca02c, .ofHex 0xd62728, .ofHex 0x9467bd,
    .ofHex 0x8c564b, .ofHex 0xe377c2, .ofHex 0x7f7f7f, .ofHex 0xbcbd22, .ofHex 0x17becf]

/-- The color of the palette at an index, counted round and round; the text color if there is no
palette. -/
def cycle (theme : Theme) (index : Nat) : Color :=
  theme.palette[index % theme.palette.length]?.getD theme.text

def groupColor (theme : Theme) (group : String) (index : Nat) : Color :=
  (theme.groupColors.get? (Text.toLower group)).getD (theme.cycle index)

def sourceColor (theme : Theme) (source : String) (index : Nat) : Color :=
  (theme.sourceColors.get? source).getD (theme.cycle index)

/-- How far an accent without a color of its own lies from the color towards white. -/
def accentShare : Float := 0.55

def sourceAccent (theme : Theme) (source : String) (index : Nat) : Color :=
  (theme.sourceAccents.get? source).getD ((theme.sourceColor source index).lighten accentShare)

end Theme

end BenchCharts

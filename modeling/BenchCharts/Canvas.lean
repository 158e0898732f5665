import BenchCharts.Color
import BenchCharts.Glyph

/-!
A surface to draw on. What lies outside of it is not drawn.
-/

namespace BenchCharts

structure Canvas where
  width : Nat
  height : Nat
  pixels : Array Color

namespace Canvas

def blank (width height : Nat) (color : Color) : Canvas :=
  ⟨width, height, Array.replicate (width * height) color⟩

def colorAt (canvas : Canvas) (x y : Nat) : Color :=
  (canvas.pixels[y * canvas.width + x]?).getD default

def paint (canvas : Canvas) (color : Color) (x y : Int) : Canvas :=
  if 0 ≤ x ∧ x < canvas.width ∧ 0 ≤ y ∧ y < canvas.height then
    { canvas with
      pixels := canvas.pixels.setIfInBounds (y.toNat * canvas.width + x.toNat) color }
  else canvas

def fillBox (canvas : Canvas) (color : Color) (x y : Int) (width height : Nat) : Canvas :=
  height.fold (fun j _ canvas =>
    width.fold (fun i _ canvas => canvas.paint color (x + i) (y + j)) canvas) canvas

def frameBox (canvas : Canvas) (color : Color) (x y : Int) (width height : Nat) : Canvas :=
  ((((canvas.fillBox color x y width 1).fillBox color x (y + height) width 1).fillBox
    color x y 1 height).fillBox color (x + width) y 1 (height + 1))

/-- Whether a dash pattern draws at a distance from its start. -/
def drawsAt (pattern : Option (Nat × Nat)) (distance : Nat) : Bool :=
  match pattern with
  | none => true
  | some (on, off) => distance % (on + off) < on

/-- Where a stroke of `n` steps is after `i` of them. -/
def between (a b : Int) (i n : Nat) : Int :=
  a + (2 * (b - a) * i + n) / (2 * n)

def stroke (canvas : Canvas) (color : Color) (thickness : Nat) (pattern : Option (Nat × Nat))
    (a b : Int × Int) : Canvas :=
  let n := max (b.1 - a.1).natAbs (b.2 - a.2).natAbs
  let shift : Int := thickness / 2
  (n + 1).fold (fun i _ canvas =>
    if drawsAt pattern i then
      canvas.fillBox color (between a.1 b.1 i n - shift) (between a.2 b.2 i n - shift)
        thickness thickness
    else canvas) canvas

def polyline (canvas : Canvas) (color : Color) (thickness : Nat) (pattern : Option (Nat × Nat))
    (points : List (Int × Int)) : Canvas :=
  (points.zip points.tail).foldl (fun canvas (a, b) => canvas.stroke color thickness pattern a b)
    canvas

/-- Fills the places around a point that belong to a shape. -/
def stamp (canvas : Canvas) (color : Color) (reach : Nat) (shape : Int → Int → Bool)
    (point : Int × Int) : Canvas :=
  (2 * reach + 1).fold (fun j _ canvas =>
    (2 * reach + 1).fold (fun i _ canvas =>
      let dx : Int := (i : Int) - reach
      let dy : Int := (j : Int) - reach
      if shape dx dy then canvas.paint color (point.1 + dx) (point.2 + dy) else canvas)
      canvas) canvas

/-- Writes text, with every dot of its letters as a square of `scale` pixels; `turn` says where a
place of the unturned text lies. -/
def write (canvas : Canvas) (color : Color) (scale : Nat) (turn : Nat → Nat → Int × Int)
    (text : List Char) : Canvas :=
  text.zipIdx.foldl (fun canvas (c, k) =>
    (scale * Glyph.columns).fold (fun i _ canvas =>
      (scale * Glyph.rows).fold (fun j _ canvas =>
        if Glyph.hasDot c (i / scale) (j / scale) then
          let (x, y) := turn (k * scale * Glyph.advance + i) j
          canvas.paint color x y
        else canvas) canvas) canvas) canvas

def textWidth (scale : Nat) (text : List Char) : Nat :=
  scale * Glyph.advance * text.length

/-- Writes text from left to right, from its top left corner. -/
def writeAcross (canvas : Canvas) (color : Color) (scale : Nat) (x y : Int) (text : List Char) :
    Canvas :=
  canvas.write color scale (fun i j => (x + i, y + j)) text

/-- Writes text from bottom to top, from its bottom left corner. -/
def writeUpwards (canvas : Canvas) (color : Color) (scale : Nat) (x y : Int) (text : List Char) :
    Canvas :=
  canvas.write color scale (fun i j => (x + j, y - i)) text

end Canvas

end BenchCharts

import BenchCharts.Color

/-!
Pictures as their pixels, and pictures joined side by side.
-/

namespace BenchCharts

structure Pixel where
  color : Color
  /-- 0 is invisible, 255 opaque. -/
  alpha : UInt8
  deriving DecidableEq, Repr, Inhabited

namespace Pixel

def opaqueOf (color : Color) : Pixel := ⟨color, 255⟩

/-- A share of one channel and the rest of another. -/
def mixChannel (alpha front back : UInt8) : UInt8 :=
  let a := alpha.toNat
  UInt8.ofNat ((front.toNat * a + back.toNat * (255 - a) + 127) / 255)

/-- The pixel in front of an opaque color. -/
def inFrontOf (front : Pixel) (back : Color) : Pixel :=
  let mix := mixChannel front.alpha
  opaqueOf ⟨mix front.color.red back.red, mix front.color.green back.green,
    mix front.color.blue back.blue⟩

end Pixel

/-- A picture. Its pixels are told by column and row from the top left corner. -/
structure Raster where
  width : Nat
  height : Nat
  pixel : Nat → Nat → Pixel

namespace Raster

instance : Inhabited Raster := ⟨⟨0, 0, fun _ _ => default⟩⟩

def filled (width height : Nat) (color : Color) : Raster :=
  ⟨width, height, fun _ _ => .opaqueOf color⟩

/-- The sides of pictures are numbers of 32 bits; of a larger one the lower bits are left. -/
def side (n : Nat) : Nat := n % Nat.pow 2 32

/-- The width that keeps the proportions at another height, rounded up. -/
def widthAt (r : Raster) (height : Nat) : Nat :=
  side (max 1 ((r.width * height + (r.height - 1)) / max 1 r.height))

/-- The picture at another height, with its proportions kept. -/
def scaledTo (r : Raster) (height : Nat) : Raster :=
  if r.height = height then r
  else
    let width := r.widthAt height
    ⟨width, height, fun x y => r.pixel (x * r.width / width) (y * r.height / height)⟩

/-- The pixel of a row of pictures. -/
def pixelBeside (background : Color) : List Raster → Nat → Nat → Pixel
  | [], _, _ => .opaqueOf background
  | r :: rs, x, y =>
    if x < r.width then (r.pixel x y).inFrontOf background
    else pixelBeside background rs (x - r.width) y

def maxHeight (rs : List Raster) : Nat :=
  rs.foldl (fun h r => max h r.height) 0

def totalWidth (rs : List Raster) : Nat :=
  rs.foldr (fun r n => r.width + n) 0

/-- Pictures from left to right, all at the height of the tallest. -/
def beside (background : Color) (rs : List Raster) : Raster :=
  let height := maxHeight rs
  let scaled := rs.map (·.scaledTo height)
  ⟨side (totalWidth scaled), height, pixelBeside background scaled⟩

end Raster

end BenchCharts

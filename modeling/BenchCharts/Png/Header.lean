import BenchCharts.Png

/-!
What a PNG says about its picture before the pixels: its size, how its pixels are written, and the
colors that the pixels refer to.
-/

namespace BenchCharts.Png

inductive Format where
  | gray
  | rgb
  /-- The number of a color. -/
  | palette
  | grayAlpha
  | rgba
  deriving DecidableEq, Repr

namespace Format

def ofNumber? : Nat → Option Format
  | 0 => some gray
  | 2 => some rgb
  | 3 => some palette
  | 4 => some grayAlpha
  | 6 => some rgba
  | _ => none

def samples : Format → Nat
  | gray => 1
  | rgb => 3
  | palette => 1
  | grayAlpha => 2
  | rgba => 4

/-- How many bits a number may have. -/
def depths : Format → List Nat
  | gray => [1, 2, 4, 8, 16]
  | palette => [1, 2, 4, 8]
  | _ => [8, 16]

end Format

structure Header where
  width : Nat
  height : Nat
  format : Format
  /-- How many bits each number of a pixel has. -/
  depth : Nat
  /-- Whether the picture comes in seven passes, each finer than the one before. -/
  interlaced : Bool

namespace Header

/-- How many bits a pixel has. -/
def pixelBits (header : Header) : Nat :=
  header.format.samples * header.depth

/-- How many bytes a row of `n` pixels has. -/
def rowSize (header : Header) (n : Nat) : Nat :=
  (n * header.pixelBits + 7) / 8

end Header

/-- The number in four bytes, the highest first. -/
def wordAt? (data : ByteArray) (start : Nat) : Option Nat := do
  let a ← data[start]?
  let b ← data[start + 1]?
  let c ← data[start + 2]?
  let d ← data[start + 3]?
  return ((a.toNat * 256 + b.toNat) * 256 + c.toNat) * 256 + d.toNat

/-- The number in two bytes, the higher one first. -/
def halfAt? (data : ByteArray) (start : Nat) : Option Nat := do
  let a ← data[start]?
  let b ← data[start + 1]?
  return a.toNat * 256 + b.toNat

/-- Reads a header: the size, the depth, the format, and the methods of compression, of filtering
and of interlacing, of which the first two have one value only. -/
def Header.ofBytes? (data : ByteArray) : Option Header := do
  let width ← wordAt? data 0
  let height ← wordAt? data 4
  let depth ← data[8]?
  let format ← Format.ofNumber? (← data[9]?).toNat
  let compression ← data[10]?
  let filter ← data[11]?
  let interlacing ← data[12]?
  if width ≠ 0 ∧ height ≠ 0 ∧ format.depths.contains depth.toNat ∧ compression = 0 ∧
      filter = 0 ∧ interlacing ≤ 1 then
    return ⟨width, height, format, depth.toNat, interlacing = 1⟩
  else none

/-- The parts of a picture that stand in front of its pixels. -/
structure Preamble where
  header : Header
  colors : Option ByteArray := none
  /-- The opacities of the colors, or the one color that is invisible. -/
  opacities : Option ByteArray := none

namespace Preamble

/-- Takes the colors, which may come only once. -/
def withColors? (preamble : Preamble) (data : ByteArray) : Option Preamble :=
  if preamble.colors.isSome then none else some { preamble with colors := some data }

/-- Takes opacities, unless they do not fit the format. -/
def withOpacities (preamble : Preamble) (data : ByteArray) : Preamble :=
  let fits : Bool := match preamble.header.format with
    | .gray => 2 ≤ data.size
    | .rgb => 6 ≤ data.size
    | .palette => preamble.colors.isSome
    | _ => false
  if fits ∧ preamble.opacities.isNone then { preamble with opacities := some data } else preamble

/-- How many bytes the picture takes in memory, with whole bytes for each number and with
opacities. -/
def memory (preamble : Preamble) : Nat :=
  let header := preamble.header
  let colored := if header.format = .palette then 3 else header.format.samples
  let samples := colored + if preamble.opacities.isSome then 1 else 0
  header.width * header.height * samples * (if header.depth = 16 then 2 else 1)

end Preamble

end BenchCharts.Png

import BenchCharts.Png.Header

/-!
The pixels of a PNG: rows, each behind the number of its filter, in one pass or in seven.
-/

namespace BenchCharts.Png

/-- The pixels of one pass: where the first one lies and how far apart they are. -/
structure Pass where
  left : Nat
  top : Nat
  across : Nat
  down : Nat

namespace Pass

def columns (pass : Pass) (header : Header) : Nat :=
  (header.width + pass.across - 1 - pass.left) / pass.across

/-- The number of rows; a pass without columns has none. -/
def rows (pass : Pass) (header : Header) : Nat :=
  if pass.columns header = 0 then 0 else (header.height + pass.down - 1 - pass.top) / pass.down

/-- Bytes of a row without the number of its filter. -/
def rowSize (pass : Pass) (header : Header) : Nat :=
  header.rowSize (pass.columns header)

/-- Bytes of the pass with the numbers of the filters. -/
def size (pass : Pass) (header : Header) : Nat :=
  pass.rows header * (pass.rowSize header + 1)

def holds (pass : Pass) (x y : Nat) : Bool :=
  pass.left ≤ x && (x - pass.left) % pass.across == 0 && pass.top ≤ y &&
    (y - pass.top) % pass.down == 0

end Pass

/-- The passes of a picture, of which just one holds each pixel. -/
def Header.passes (header : Header) : List Pass :=
  if header.interlaced then
    [⟨0, 0, 8, 8⟩, ⟨4, 0, 8, 8⟩, ⟨0, 4, 4, 8⟩, ⟨2, 0, 4, 4⟩, ⟨0, 2, 2, 4⟩, ⟨1, 0, 2, 2⟩,
      ⟨0, 1, 1, 2⟩]
  else [⟨0, 0, 1, 1⟩]

/-- Bytes of all passes. -/
def Header.size (header : Header) : Nat :=
  header.passes.foldl (fun n pass => n + pass.size header) 0

/-- The neighbour that a prediction from left, above and above left is closest to. -/
def predict (a b c : Nat) : Nat :=
  let p : Int := a + b - c
  let pa := (p - a).natAbs
  let pb := (p - b).natAbs
  let pc := (p - c).natAbs
  if pa ≤ pb ∧ pa ≤ pc then a else if pb ≤ pc then b else c

/-- What a filter adds to a byte, given the bytes to the left, above, and above left. -/
def filterShare (filter : UInt8) (a b c : Nat) : Nat :=
  match filter with
  | 1 => a
  | 2 => b
  | 3 => (a + b) / 2
  | 4 => predict a b c
  | _ => 0

/-- How many filters there are. -/
def filterCount : Nat := 5

/-- The number at a place, and 0 where there is none. -/
def byteAt (data : ByteArray) (i : Nat) : Nat :=
  ((data[i]?).getD 0).toNat

/-- Undoes the filters of the rows of a pass that starts at some place of the data. -/
def unfilter (header : Header) (pass : Pass) (data : ByteArray) (start : Nat) : ByteArray :=
  let size := pass.rowSize header
  -- the neighbour to the left is a pixel away, but at least a byte
  let step := max 1 (header.pixelBits / 8)
  (pass.rows header).fold (fun y _ out =>
    let row := start + y * (size + 1)
    let filter := (data[row]?).getD 0
    size.fold (fun i _ out =>
      let place := y * size + i
      let a := if step ≤ i then byteAt out (place - step) else 0
      let b := if 0 < y then byteAt out (place - size) else 0
      let c := if step ≤ i ∧ 0 < y then byteAt out (place - size - step) else 0
      out.push (UInt8.ofNat (byteAt data (row + 1 + i) + filterShare filter a b c))) out) .empty

/-- Whether the rows of some passes that the data hold in full have filters that there are, where
the first pass starts at some place of the data. -/
def filtersKnown (header : Header) (data : ByteArray) : Nat → List Pass → Bool
  | _, [] => true
  | start, pass :: rest =>
    let size := pass.rowSize header + 1
    ((List.range (pass.rows header)).all fun y =>
      data.size < start + (y + 1) * size || byteAt data (start + y * size) < filterCount) &&
      filtersKnown header data (start + pass.size header) rest

/-- The passes with their rows, the filters undone. -/
def unfilterAll (header : Header) (data : ByteArray) : Nat → List Pass → List (Pass × ByteArray)
  | _, [] => []
  | start, pass :: rest =>
    (pass, unfilter header pass data start) ::
      unfilterAll header data (start + pass.size header) rest

/-- The number at index `i` of a row that starts at `row`. -/
def sampleAt (depth : Nat) (rows : ByteArray) (row i : Nat) : Nat :=
  if depth = 16 then 256 * byteAt rows (row + 2 * i) + byteAt rows (row + 2 * i + 1)
  else
    let bit := i * depth
    byteAt rows (row + bit / 8) / Nat.pow 2 (8 - depth - bit % 8) % Nat.pow 2 depth

/-- A number of some bits as one of eight bits, rounded. -/
def toByte (depth n : Nat) : UInt8 :=
  if depth = 16 then UInt8.ofNat ((n + 128) / 257)
  else UInt8.ofNat (n * 255 / (Nat.pow 2 depth - 1))

/-- The color of a number. Numbers beyond the colors are black, and too many opacities do not
count. -/
def colorOf (colors opacities : ByteArray) (n : Nat) : Pixel :=
  let channel := fun i => (colors[3 * n + i]?).getD 0
  let alpha :=
    if opacities.size ≤ colors.size / 3 then (opacities[n]?).getD 255 else 255
  ⟨⟨channel 0, channel 1, channel 2⟩, alpha⟩

/-- Whether the numbers of a pixel name the color that is invisible. -/
def isInvisible (preamble : Preamble) (samples : List Nat) : Bool :=
  match preamble.opacities with
  | none => false
  | some data =>
    let bound := Nat.pow 2 (max 8 preamble.header.depth)
    samples.zipIdx.all fun (n, i) => (halfAt? data (2 * i)).any (· % bound == n)

/-- The pixel of some numbers. -/
def Preamble.pixel (preamble : Preamble) (samples : List Nat) : Pixel :=
  let channel := fun i => toByte preamble.header.depth (samples[i]?.getD 0)
  let alpha : UInt8 := if isInvisible preamble samples then 0 else 255
  match preamble.header.format with
  | .gray => ⟨⟨channel 0, channel 0, channel 0⟩, alpha⟩
  | .rgb => ⟨⟨channel 0, channel 1, channel 2⟩, alpha⟩
  | .palette =>
    colorOf (preamble.colors.getD .empty) (preamble.opacities.getD .empty) (samples[0]?.getD 0)
  | .grayAlpha => ⟨⟨channel 0, channel 0, channel 0⟩, channel 1⟩
  | .rgba => ⟨⟨channel 0, channel 1, channel 2⟩, channel 3⟩

/-- The pixel at a place, given the passes with their rows. -/
def pixelAt (preamble : Preamble) (passes : List (Pass × ByteArray)) (x y : Nat) : Pixel :=
  match passes.find? fun (pass, _) => pass.holds x y with
  | none => default
  | some (pass, rows) =>
    let header := preamble.header
    let row := (y - pass.top) / pass.down * pass.rowSize header
    let count := header.format.samples
    let first := (x - pass.left) / pass.across * count
    preamble.pixel ((List.range count).map fun i => sampleAt header.depth rows row (first + i))

/-- The picture of data that hold all passes. -/
def Preamble.raster (preamble : Preamble) (data : ByteArray) : Raster :=
  let passes := unfilterAll preamble.header data 0 preamble.header.passes
  ⟨preamble.header.width, preamble.header.height, pixelAt preamble passes⟩

end BenchCharts.Png

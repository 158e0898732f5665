/-!
The letters of texts in pictures: seven rows of five dots. Letters without a form of their own are
shown as a box.
-/

namespace BenchCharts.Glyph

def columns : Nat := 5

def rows : Nat := 7

def advance : Nat := 6

/-- The columns of the letters from the blank on, each with its lowest bit at the top. -/
def forms : Array (List Nat) := #[
  [0x00, 0x00, 0x00, 0x00, 0x00], [0x00, 0x00, 0x5f, 0x00, 0x00], [0x00, 0x07, 0x00, 0x07, 0x00],
  [0x14, 0x7f, 0x14, 0x7f, 0x14], [0x24, 0x2a, 0x7f, 0x2a, 0x12], [0x23, 0x13, 0x08, 0x64, 0x62],
  [0x36, 0x49, 0x56, 0x20, 0x50], [0x00, 0x08, 0x07, 0x03, 0x00], [0x00, 0x1c, 0x22, 0x41, 0x00],
  [0x00, 0x41, 0x22, 0x1c, 0x00], [0x2a, 0x1c, 0x7f, 0x1c, 0x2a], [0x08, 0x08, 0x3e, 0x08, 0x08],
  [0x00, 0x40, 0x30, 0x10, 0x00], [0x08, 0x08, 0x08, 0x08, 0x08], [0x00, 0x00, 0x60, 0x60, 0x00],
  [0x20, 0x10, 0x08, 0x04, 0x02], [0x3e, 0x51, 0x49, 0x45, 0x3e], [0x00, 0x42, 0x7f, 0x40, 0x00],
  [0x72, 0x49, 0x49, 0x49, 0x46], [0x21, 0x41, 0x49, 0x4d, 0x33], [0x18, 0x14, 0x12, 0x7f, 0x10],
  [0x27, 0x45, 0x45, 0x45, 0x39], [0x3c, 0x4a, 0x49, 0x49, 0x31], [0x41, 0x21, 0x11, 0x09, 0x07],
  [0x36, 0x49, 0x49, 0x49, 0x36], [0x46, 0x49, 0x49, 0x29, 0x1e], [0x00, 0x00, 0x14, 0x00, 0x00],
  [0x00, 0x40, 0x34, 0x00, 0x00], [0x00, 0x08, 0x14, 0x22, 0x41], [0x14, 0x14, 0x14, 0x14, 0x14],
  [0x00, 0x41, 0x22, 0x14, 0x08], [0x02, 0x01, 0x59, 0x09, 0x06], [0x3e, 0x41, 0x5d, 0x59, 0x4e],
  [0x7c, 0x12, 0x11, 0x12, 0x7c], [0x7f, 0x49, 0x49, 0x49, 0x36], [0x3e, 0x41, 0x41, 0x41, 0x22],
  [0x7f, 0x41, 0x41, 0x41, 0x3e], [0x7f, 0x49, 0x49, 0x49, 0x41], [0x7f, 0x09, 0x09, 0x09, 0x01],
  [0x3e, 0x41, 0x41, 0x51, 0x73], [0x7f, 0x08, 0x08, 0x08, 0x7f], [0x00, 0x41, 0x7f, 0x41, 0x00],
  [0x20, 0x40, 0x41, 0x3f, 0x01], [0x7f, 0x08, 0x14, 0x22, 0x41], [0x7f, 0x40, 0x40, 0x40, 0x40],
  [0x7f, 0x02, 0x1c, 0x02, 0x7f], [0x7f, 0x04, 0x08, 0x10, 0x7f], [0x3e, 0x41, 0x41, 0x41, 0x3e],
  [0x7f, 0x09, 0x09, 0x09, 0x06], [0x3e, 0x41, 0x51, 0x21, 0x5e], [0x7f, 0x09, 0x19, 0x29, 0x46],
  [0x26, 0x49, 0x49, 0x49, 0x32], [0x03, 0x01, 0x7f, 0x01, 0x03], [0x3f, 0x40, 0x40, 0x40, 0x3f],
  [0x1f, 0x20, 0x40, 0x20, 0x1f], [0x3f, 0x40, 0x38, 0x40, 0x3f], [0x63, 0x14, 0x08, 0x14, 0x63],
  [0x03, 0x04, 0x78, 0x04, 0x03], [0x61, 0x59, 0x49, 0x4d, 0x43], [0x00, 0x7f, 0x41, 0x41, 0x41],
  [0x02, 0x04, 0x08, 0x10, 0x20], [0x00, 0x41, 0x41, 0x41, 0x7f], [0x04, 0x02, 0x01, 0x02, 0x04],
  [0x40, 0x40, 0x40, 0x40, 0x40], [0x00, 0x03, 0x07, 0x08, 0x00], [0x20, 0x54, 0x54, 0x78, 0x40],
  [0x7f, 0x28, 0x44, 0x44, 0x38], [0x38, 0x44, 0x44, 0x44, 0x28], [0x38, 0x44, 0x44, 0x28, 0x7f],
  [0x38, 0x54, 0x54, 0x54, 0x18], [0x00, 0x08, 0x7e, 0x09, 0x02], [0x08, 0x54, 0x54, 0x54, 0x3c],
  [0x7f, 0x08, 0x04, 0x04, 0x78], [0x00, 0x44, 0x7d, 0x40, 0x00], [0x20, 0x40, 0x44, 0x3d, 0x00],
  [0x7f, 0x10, 0x28, 0x44, 0x00], [0x00, 0x41, 0x7f, 0x40, 0x00], [0x7c, 0x04, 0x78, 0x04, 0x78],
  [0x7c, 0x08, 0x04, 0x04, 0x78], [0x38, 0x44, 0x44, 0x44, 0x38], [0x7c, 0x14, 0x14, 0x14, 0x08],
  [0x08, 0x14, 0x14, 0x18, 0x7c], [0x7c, 0x08, 0x04, 0x04, 0x08], [0x48, 0x54, 0x54, 0x54, 0x24],
  [0x04, 0x04, 0x3f, 0x44, 0x24], [0x3c, 0x40, 0x40, 0x20, 0x7c], [0x1c, 0x20, 0x40, 0x20, 0x1c],
  [0x3c, 0x40, 0x30, 0x40, 0x3c], [0x44, 0x28, 0x10, 0x28, 0x44], [0x0c, 0x50, 0x50, 0x50, 0x3c],
  [0x44, 0x64, 0x54, 0x4c, 0x44], [0x00, 0x08, 0x36, 0x41, 0x00], [0x00, 0x00, 0x77, 0x00, 0x00],
  [0x00, 0x41, 0x36, 0x08, 0x00], [0x02, 0x01, 0x02, 0x04, 0x02]]

def lookalike (c : Char) : Char :=
  match c with
  | 'µ' => 'u'
  | '×' => 'x'
  | _ => c

def box : List Nat := [0x7f, 0x41, 0x41, 0x41, 0x7f]

def form (c : Char) : List Nat :=
  let n := (lookalike c).toNat
  if n < 32 then box else (forms[n - 32]?).getD box

def hasDot (c : Char) (column row : Nat) : Bool :=
  ((form c)[column]?).any (·.testBit row)

end BenchCharts.Glyph

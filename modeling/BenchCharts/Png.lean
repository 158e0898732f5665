import BenchCharts.Raster

/-!
Writes pictures as PNG, with eight bits for each of red, green, blue and opacity and without
compression.
-/

namespace BenchCharts.Png

/-- The checksum of one byte and the seven bits still to shift. -/
def crcShift : Nat → UInt32 → UInt32
  | 0, c => c
  | n + 1, c => crcShift n (if c &&& 1 = 1 then (0xedb88320 : UInt32) ^^^ (c >>> 1) else c >>> 1)

def crcTable : Array UInt32 :=
  ((List.range 256).map fun n => crcShift 8 (UInt32.ofNat n)).toArray

def crcStep (c : UInt32) (byte : UInt8) : UInt32 :=
  (crcTable[((c ^^^ byte.toUInt32) &&& 0xff).toNat]?).getD 0 ^^^ (c >>> 8)

def crc (data : ByteArray) : UInt32 :=
  data.foldl crcStep 0xffffffff ^^^ 0xffffffff

def adler (data : ByteArray) : UInt32 :=
  let (a, b) := data.foldl (fun (a, b) byte =>
    let a := (a + byte.toUInt32) % 65521
    (a, (b + a) % 65521)) ((1 : UInt32), (0 : UInt32))
  b <<< 16 ||| a

/-- Four bytes, the highest first. -/
def word (n : UInt32) : ByteArray :=
  ⟨#[(n >>> 24).toUInt8, (n >>> 16).toUInt8, (n >>> 8).toUInt8, n.toUInt8]⟩

def chunk (name : String) (data : ByteArray) : ByteArray :=
  let body := name.toUTF8 ++ data
  word (UInt32.ofNat data.size) ++ body ++ word (crc body)

/-- A block of data that is stored as it is. -/
def storedBlock (last : Bool) (data : ByteArray) : ByteArray :=
  let size := UInt16.ofNat data.size
  let opposite := size ^^^ 0xffff
  ⟨#[if last then 1 else 0, size.toUInt8, (size >>> 8).toUInt8,
    opposite.toUInt8, (opposite >>> 8).toUInt8]⟩ ++ data

def blockSize : Nat := 65535

/-- A compressed stream that stores its data as they are. -/
def stored (data : ByteArray) : ByteArray :=
  let count := max 1 ((data.size + blockSize - 1) / blockSize)
  let blocks := count.fold (fun i _ out =>
    out ++ storedBlock (i + 1 == count) (data.extract (i * blockSize) ((i + 1) * blockSize)))
    (⟨#[0x78, 0x01]⟩ : ByteArray)
  blocks ++ word (adler data)

/-- The rows of a picture, each behind the number of its filter. -/
def rows (raster : Raster) : ByteArray :=
  raster.height.fold (fun y _ out =>
    raster.width.fold (fun x _ out =>
      let p := raster.pixel x y
      (((out.push p.color.red).push p.color.green).push p.color.blue).push p.alpha)
      (out.push 0)) .empty

def signature : ByteArray :=
  ⟨#[0x89, 0x50, 0x4e, 0x47, 0x0d, 0x0a, 0x1a, 0x0a]⟩

def header (raster : Raster) : ByteArray :=
  word (UInt32.ofNat raster.width) ++ word (UInt32.ofNat raster.height) ++ ⟨#[8, 6, 0, 0, 0]⟩

def encode (raster : Raster) : ByteArray :=
  signature ++ chunk "IHDR" (header raster) ++ chunk "IDAT" (stored (rows raster)) ++
    chunk "IEND" .empty

end BenchCharts.Png

import BenchCharts.Png.Inflate
import BenchCharts.Png.Pixels

/-!
Reads PNG pictures of every format. A file is read in order and only as far as the chunk behind the
pixels, so the first flaw counts and what comes later does not.
-/

namespace BenchCharts.Png

/-- Why a file is no picture. -/
inductive Flaw where
  /-- The file ends too early. -/
  | cutShort
  | malformed
  /-- The picture would take too much memory. -/
  | tooLarge
  deriving DecidableEq, Repr

/-- The number in the four bytes at a place of a file. -/
def wordAt (data : ByteArray) (start : Nat) : Except Flaw Nat :=
  match wordAt? data start with
  | some n => .ok n
  | none => .error .cutShort

/-- Four bytes that name a kind of chunk. -/
structure ChunkName where
  code : Nat
  deriving DecidableEq, Repr

namespace ChunkName

def ofText (name : String) : ChunkName :=
  ⟨(wordAt? name.toUTF8 0).getD 0⟩

def header : ChunkName := ofText "IHDR"
def colors : ChunkName := ofText "PLTE"
def opacities : ChunkName := ofText "tRNS"
def pixels : ChunkName := ofText "IDAT"
def stop : ChunkName := ofText "IEND"
def frameControl : ChunkName := ofText "fcTL"
def framePixels : ChunkName := ofText "fdAT"

/-- Whether a picture cannot be read without knowing the chunk: the name starts with a capital. -/
def isCritical (name : ChunkName) : Bool :=
  !name.code.testBit 29

end ChunkName

/-- Fails with a malformed file unless there is something. -/
def orMalformed (x : Option α) : Except Flaw α :=
  match x with
  | some x => .ok x
  | none => .error .malformed

/-- What is known of a picture when a chunk comes: of an animated one also how many frames were
announced. -/
structure Known where
  preamble : Option Preamble := none
  frames : Nat := 0

/-- Whether the data announce the next frame of a picture, the whole of it. -/
def announcesFrame (header : Header) (frames : Nat) (data : ByteArray) : Bool :=
  wordAt? data 0 == some frames && wordAt? data 4 == some header.width &&
    wordAt? data 8 == some header.height && wordAt? data 12 == some 0 &&
    wordAt? data 16 == some 0 && ((data[24]?).any (· ≤ 2)) && ((data[25]?).any (· ≤ 1))

/-- Takes in a chunk that holds no pixels. Unknown chunks are passed over unless they are critical,
and what is wrong with an ancillary chunk does not matter, an announced frame apart. -/
def Known.add? (known : Known) (name : ChunkName) (data : ByteArray) : Option Known :=
  match known.preamble with
  | none =>
    (Header.ofBytes? data).map fun header => { known with preamble := some { header } }
  | some preamble =>
    if name = .header then none
    else if name = .colors then
      (preamble.withColors? data).map fun preamble => { known with preamble := some preamble }
    else if name = .opacities then
      some { known with preamble := some (preamble.withOpacities data) }
    else if name = .frameControl then
      if announcesFrame preamble.header known.frames data then
        some { known with frames := known.frames + 1 }
      else none
    else if name = .stop ∨ !name.isCritical then some known
    else none

/-- Reads the chunks from `start` on, at most `n` of them, up to the first one with pixels. -/
def preambleFrom (data : ByteArray) : Nat → Nat → Known → Except Flaw (Preamble × Nat)
  | 0, _, _ => .error .cutShort
  | n + 1, start, known => do
    let size ← wordAt data start
    let name : ChunkName := ⟨← wordAt data (start + 4)⟩
    if known.preamble.isNone ∧ name ≠ .header then .error .malformed
    if name = .framePixels then .error .malformed
    match known.preamble with
    | some preamble => if name = .pixels then return (preamble, start)
    | none => pure ()
    if data.size < start + 8 + size then .error .cutShort
    let known ← orMalformed (known.add? name (data.extract (start + 8) (start + 8 + size)))
    let sum ← wordAt data (start + 8 + size)
    if (crc (data.extract (start + 4) (start + 8 + size))).toNat ≠ sum ∧ name.isCritical then
      .error .malformed
    if name = .stop then .error .malformed
    preambleFrom data n (start + 12 + size) known

/-- The packed pixels from a chunk on, which is the first of at most `n` that follow one another,
and the flaw that ends them unless another chunk does. -/
def packedFrom (data : ByteArray) : Nat → Nat → ByteArray → ByteArray × Option Flaw
  | 0, _, packed => (packed, some .cutShort)
  | n + 1, start, packed =>
    match wordAt? data start, wordAt? data (start + 4) with
    | some size, some name =>
      if name ≠ ChunkName.pixels.code then (packed, none)
      else
        let packed := packed ++ data.extract (start + 8) (start + 8 + size)
        match wordAt? data (start + 8 + size) with
        | none => (packed, some .cutShort)
        | some sum =>
          if (crc (data.extract (start + 4) (start + 8 + size))).toNat = sum then
            packedFrom data n (start + 12 + size) packed
          else (packed, some .malformed)
    | _, _ => (packed, some .cutShort)

/-- How many bytes a picture may take in memory. -/
def memoryLimit : Nat := 512 * 1024 * 1024

/-- The bytes up to the end of the first row. -/
def Header.firstRow (header : Header) : Nat :=
  ((header.passes.filter fun pass => 0 < pass.rows header).head?.map fun pass =>
    pass.rowSize header + 1).getD 0

/-- The picture of packed pixels, which end with a flaw or another chunk. -/
def rasterOf (preamble : Preamble) (packed : ByteArray) (flaw : Option Flaw) :
    Except Flaw Raster :=
  let header := preamble.header
  let (raw, halt) := inflate header.size packed
  if halt = some .corrupt then .error .malformed
  else if !filtersKnown header raw 0 header.passes then .error .malformed
  else if header.format = .palette ∧ preamble.colors.isNone ∧ header.firstRow ≤ raw.size then
    .error .malformed
  else match flaw with
    | some flaw => .error flaw
    | none => if header.size ≤ raw.size then .ok (preamble.raster raw) else .error .malformed

/-- Reads a picture. -/
def decode (data : ByteArray) : Except Flaw Raster := do
  let first ← wordAt data 0
  if some first ≠ wordAt? signature 0 then .error .malformed
  let second ← wordAt data 4
  if some second ≠ wordAt? signature 4 then .error .malformed
  let (preamble, start) ← preambleFrom data data.size 8 {}
  if memoryLimit < preamble.memory then .error .tooLarge
  let (packed, flaw) := packedFrom data data.size start .empty
  rasterOf preamble packed flaw

end BenchCharts.Png

/-!
Unpacks compressed data: blocks that are stored as they are, or coded with codes of different
lengths for literal bytes and for pieces that occurred before.
-/

namespace BenchCharts.Png

/-- What stops the unpacking before its end. -/
inductive Halt where
  /-- There are no more data. -/
  | starved
  | corrupt
  deriving DecidableEq, Repr

/-- Data read bit by bit, the lowest bit of a byte first. -/
structure Bits where
  data : ByteArray
  position : Nat

namespace Bits

def next (bits : Bits) : Except Halt (Nat × Bits) :=
  match bits.data[bits.position / 8]? with
  | none => .error .starved
  | some byte =>
    .ok (if byte.toNat.testBit (bits.position % 8) then 1 else 0,
      { bits with position := bits.position + 1 })

/-- A number of `n` bits, the lowest one first. -/
def number : Nat → Bits → Except Halt (Nat × Bits)
  | 0, bits => .ok (0, bits)
  | n + 1, bits => do
    let (low, bits) ← bits.next
    let (high, bits) ← number n bits
    return (low + 2 * high, bits)

/-- Goes on to the next whole byte. -/
def align (bits : Bits) : Bits :=
  { bits with position := (bits.position + 7) / 8 * 8 }

end Bits

/-- A code: how many words there are of each length, and the symbols in the order of their words. -/
structure Code where
  counts : List Nat
  symbols : Array Nat

namespace Code

def maxLength : Nat := 15

/-- The code with a word of the given length for each symbol; 0 is for symbols that do not occur. -/
def ofLengths (lengths : List Nat) : Code :=
  let sizes := (List.range maxLength).map (· + 1)
  { counts := sizes.map lengths.count
    symbols := (sizes.flatMap fun size =>
      (lengths.zipIdx.filter (·.1 == size)).map (·.2)).toArray }

/-- How many words of the greatest length begin with a word of the code. -/
def spaceUsed (code : Code) : Nat :=
  code.counts.foldl (fun used count => 2 * used + count) 0

/-- Whether every text of bits begins with just one word of the code. -/
def isComplete (code : Code) : Bool :=
  code.spaceUsed == Nat.pow 2 maxLength

/-- Whether a code may stand for distances: none may occur, and a single one has a word of one
bit. -/
def servesDistances (code : Code) : Bool :=
  code.isComplete || code.symbols.isEmpty ||
    (code.symbols.size == 1 && code.counts.head? == some 1)

/-- Reads on, where `word` was read, the words of this length start at `first`, and `index`
symbols have shorter words. -/
def symbolAfter (code : Code) (word first index : Nat) :
    List Nat → Bits → Except Halt (Nat × Bits)
  | [], _ => .error .corrupt
  | count :: counts, bits => do
    let (bit, bits) ← bits.next
    let word := word + bit
    if word < first + count then
      match code.symbols[index + (word - first)]? with
      | some symbol => return (symbol, bits)
      | none => .error .corrupt
    else symbolAfter code (2 * word) (2 * (first + count)) (index + count) counts bits

def symbol (code : Code) (bits : Bits) : Except Halt (Nat × Bits) :=
  code.symbolAfter 0 0 0 code.counts bits

end Code

/-- The shortest length of each length symbol and the number of bits to add, from symbol 257 on. -/
def lengthSteps : Array (Nat × Nat) := #[
  (3, 0), (4, 0), (5, 0), (6, 0), (7, 0), (8, 0), (9, 0), (10, 0), (11, 1), (13, 1), (15, 1),
  (17, 1), (19, 2), (23, 2), (27, 2), (31, 2), (35, 3), (43, 3), (51, 3), (59, 3), (67, 4),
  (83, 4), (99, 4), (115, 4), (131, 5), (163, 5), (195, 5), (227, 5), (258, 0)]

/-- The same for distances. -/
def distanceSteps : Array (Nat × Nat) := #[
  (1, 0), (2, 0), (3, 0), (4, 0), (5, 1), (7, 1), (9, 2), (13, 2), (17, 3), (25, 3), (33, 4),
  (49, 4), (65, 5), (97, 5), (129, 6), (193, 6), (257, 7), (385, 7), (513, 8), (769, 8),
  (1025, 9), (1537, 9), (2049, 10), (3073, 10), (4097, 11), (6145, 11), (8193, 12), (12289, 12),
  (16385, 13), (24577, 13)]

def stepped (steps : Array (Nat × Nat)) (symbol : Nat) (bits : Bits) : Except Halt (Nat × Bits) :=
  match steps[symbol]? with
  | none => .error .corrupt
  | some (base, extra) => do
    let (more, bits) ← bits.number extra
    return (base + more, bits)

/-- One element of a coded block. -/
inductive Element where
  | literal (byte : UInt8)
  /-- A piece of this length that stands this far back. -/
  | copy (length distance : Nat)
  | stop

/-- Reads an element of a coded block. -/
def element (literals distances : Code) (bits : Bits) : Except Halt (Element × Bits) := do
  let (symbol, bits) ← literals.symbol bits
  if symbol < 256 then return (.literal (UInt8.ofNat symbol), bits)
  else if symbol = 256 then return (.stop, bits)
  else
    let (length, bits) ← stepped lengthSteps (symbol - 257) bits
    let (symbol, bits) ← distances.symbol bits
    let (distance, bits) ← stepped distanceSteps symbol bits
    return (.copy length distance, bits)

/-- Repeats bytes from a distance back. -/
def repeatBytes (out : ByteArray) (distance length : Nat) : ByteArray :=
  length.fold (fun _ _ out => out.push ((out[out.size - distance]?).getD 0)) out

/-- How far the unpacking has come. -/
structure Unpacking where
  bits : Bits
  out : ByteArray
  halt : Option Halt := none

/-- Unpacks a coded block of at most `n` elements, as far as `room` bytes. -/
def codedBlock (literals distances : Code) (room : Nat) : Nat → Bits → ByteArray → Unpacking
  | 0, bits, out => ⟨bits, out, some .corrupt⟩
  | n + 1, bits, out =>
    if room ≤ out.size then ⟨bits, out, none⟩
    else match element literals distances bits with
      | .error halt => ⟨bits, out, some halt⟩
      | .ok (.stop, bits) => ⟨bits, out, none⟩
      | .ok (.literal byte, bits) => codedBlock literals distances room n bits (out.push byte)
      | .ok (.copy length distance, bits) =>
        if out.size < distance then ⟨bits, out, some .corrupt⟩
        else codedBlock literals distances room n bits (repeatBytes out distance length)

def fixedLiterals : Code :=
  .ofLengths (List.replicate 144 8 ++ List.replicate 112 9 ++ List.replicate 24 7 ++
    List.replicate 8 8)

def fixedDistances : Code :=
  .ofLengths (List.replicate 32 5)

/-- The order in which the lengths of the code for lengths are written. -/
def lengthOrder : List Nat :=
  [16, 17, 18, 0, 8, 7, 9, 6, 10, 5, 11, 4, 12, 3, 13, 2, 14, 1, 15]

/-- Reads `n` numbers of three bits. -/
def triples : Nat → Bits → Except Halt (List Nat × Bits)
  | 0, bits => .ok ([], bits)
  | n + 1, bits => do
    let (k, bits) ← bits.number 3
    let (ks, bits) ← triples n bits
    return (k :: ks, bits)

/-- Reads `n` lengths; the ones before are given from the last on. -/
def lengths (code : Code) (n : Nat) : Nat → List Nat → Bits → Except Halt (List Nat × Bits)
  | 0, _, _ => .error .corrupt
  | fuel + 1, before, bits =>
    if n ≤ before.length then
      if n = before.length then .ok (before.reverse, bits) else .error .corrupt
    else do
      let (symbol, bits) ← code.symbol bits
      if symbol < 16 then lengths code n fuel (symbol :: before) bits
      else if symbol = 16 then
        match before with
        | [] => .error .corrupt
        | last :: _ =>
          let (more, bits) ← bits.number 2
          lengths code n fuel (List.replicate (3 + more) last ++ before) bits
      else
        let (more, bits) ← bits.number (if symbol = 17 then 3 else 7)
        let count := (if symbol = 17 then 3 else 11) + more
        lengths code n fuel (List.replicate count 0 ++ before) bits

/-- Reads the two codes of a block that brings its own. -/
def codes (bits : Bits) : Except Halt (Code × Code × Bits) := do
  let (literals, bits) ← bits.number 5
  let (distances, bits) ← bits.number 5
  let (orders, bits) ← bits.number 4
  if 286 < literals + 257 ∨ 30 < distances + 1 then .error .corrupt
  let (sizes, bits) ← triples (orders + 4) bits
  let named := lengthOrder.zip sizes
  let code := Code.ofLengths ((List.range 19).map fun s => (named.lookup s).getD 0)
  if !code.isComplete then .error .corrupt
  let total := literals + 257 + (distances + 1)
  let (lengths, bits) ← lengths code total (total + 1) [] bits
  let (first, second) := lengths.splitAt (literals + 257)
  let (literals, distances) := (Code.ofLengths first, Code.ofLengths second)
  if first[256]? = some 0 ∨ !literals.isComplete ∨ !distances.servesDistances then
    .error .corrupt
  return (literals, distances, bits)

/-- Unpacks a block that is stored as it is, as far as there are data. -/
def plainBlock (bits : Bits) (out : ByteArray) : Unpacking :=
  match (do
    let (size, bits) ← bits.align.number 16
    let (opposite, bits) ← bits.number 16
    return (size, opposite, bits) : Except Halt (Nat × Nat × Bits)) with
  | .error halt => ⟨bits, out, some halt⟩
  | .ok (size, opposite, bits) =>
    let start := bits.position / 8
    if size + opposite ≠ 65535 then ⟨bits, out, some .corrupt⟩
    else
      ⟨{ bits with position := bits.position + 8 * size },
        out ++ bits.data.extract start (start + size),
        if bits.data.size < start + size then some .starved else none⟩

/-- Unpacks a block of some kind. -/
def block (kind room : Nat) (bits : Bits) (out : ByteArray) : Unpacking :=
  let fuel := 8 * bits.data.size + 1
  match kind with
  | 0 => plainBlock bits out
  | 1 => codedBlock fixedLiterals fixedDistances room fuel bits out
  | 2 =>
    match codes bits with
    | .error halt => ⟨bits, out, some halt⟩
    | .ok (literals, distances, bits) => codedBlock literals distances room fuel bits out
  | _ => ⟨bits, out, some .corrupt⟩

/-- Unpacks at most `n` blocks, as far as `room` bytes. -/
def blocks (room : Nat) : Nat → Bits → ByteArray → ByteArray × Option Halt
  | 0, _, out => (out, some .corrupt)
  | n + 1, bits, out =>
    if room ≤ out.size then (out, none)
    else
      match (do
        let (last, bits) ← bits.next
        let (kind, bits) ← bits.number 2
        return (last, kind, bits) : Except Halt (Nat × Nat × Bits)) with
      | .error halt => (out, some halt)
      | .ok (last, kind, bits) =>
        let done := block kind room bits out
        if done.halt.isSome ∨ last = 1 then (done.out, done.halt)
        else blocks room n done.bits done.out

/-- Whether two bytes may stand in front of compressed data. -/
def isStreamHead (a b : Nat) : Bool :=
  a % 16 == 8 && a / 16 ≤ 7 && !b.testBit 5 && (256 * a + b) % 31 == 0

/-- Unpacks a stream as far as its end or `room` bytes, and says what stops it before. The checksum
behind the stream does not matter. -/
def inflate (room : Nat) (data : ByteArray) : ByteArray × Option Halt :=
  match data[0]?, data[1]? with
  | some a, some b =>
    if isStreamHead a.toNat b.toNat then blocks room (8 * data.size) ⟨data, 16⟩ .empty
    else (.empty, some .corrupt)
  | _, _ => (.empty, some .starved)

end BenchCharts.Png

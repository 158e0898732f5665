import BenchCharts.Json
import BenchCharts.Json.Reader
import BenchCharts.Text.Blank

/-!
Opaque colors, written `#rrggbb`.
-/

namespace BenchCharts

structure Color where
  red : UInt8
  green : UInt8
  blue : UInt8
  deriving DecidableEq, Repr, Inhabited

namespace Color

open Text

def ofHex (n : Nat) : Color :=
  ⟨UInt8.ofNat (n / 0x10000), UInt8.ofNat (n / 0x100), UInt8.ofNat n⟩

def channelText (c : UInt8) : List Char :=
  [Json.hexDigit (c.toNat / 16), Json.hexDigit (c.toNat % 16)]

def text (c : Color) : List Char :=
  '#' :: channelText c.red ++ channelText c.green ++ channelText c.blue

/-- A channel: two hexadecimal digits, or a plus sign and one. -/
def channel? (a b : Char) : Option UInt8 :=
  if a = '+' then (Json.hexValue? b).map UInt8.ofNat
  else do return UInt8.ofNat (16 * (← Json.hexValue? a) + (← Json.hexValue? b))

/-- Reads a color. The number sign is optional, and blanks around it do not count. -/
def ofText? (s : List Char) : Option Color :=
  let s := trim s
  let body := match s with
    | '#' :: r => r
    | r => r
  match body with
  | [a, b, c, d, e, f] => do return ⟨← channel? a b, ← channel? c d, ← channel? e f⟩
  | _ => none

/-- A text that is no color. -/
structure Invalid where
  text : String
  deriving DecidableEq, Repr

def Invalid.message (invalid : Invalid) : String :=
  s!"invalid color '{invalid.text}': expected #rrggbb"

def ofString (s : String) : Except Invalid Color :=
  match ofText? s.toList with
  | some c => .ok c
  | none => .error ⟨s⟩

def clampShare (x : Float) : Float :=
  if x < 0.0 then 0.0 else if 1.0 < x then 1.0 else x

def lightenChannel (amount : Float) (c : UInt8) : UInt8 :=
  let x := Float.ofNat c.toNat
  (x + (255.0 - x) * amount).round.toUInt8

/-- Blends towards white; 0 leaves the color as it is, 1 gives white. -/
def lighten (c : Color) (amount : Float) : Color :=
  let share := clampShare amount
  ⟨lightenChannel share c.red, lightenChannel share c.green, lightenChannel share c.blue⟩

end Color

end BenchCharts

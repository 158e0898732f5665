import BenchCharts.Decimal.Natural

/-!
Decimal numerals with a fraction and an exponent, and the doubles nearest to them.
-/

namespace BenchCharts.Decimal

def nan : Float := 0.0 / 0.0

def infinity : Float := 1.0 / 0.0

/-- The number `±digits · 10 ^ exponent`. -/
structure Numeral where
  negative : Bool
  digits : Nat
  exponent : Int

/-- The nearest double. Past either end of the range the answer is known before any power of ten is
formed. -/
def Numeral.toFloat (n : Numeral) : Float :=
  let magnitude : Float :=
    let top := n.exponent + (Decimal.digits n.digits).length
    if n.digits = 0 ∨ top < -330 then 0.0
    else if 310 < top then infinity
    else Float.ofScientific n.digits (n.exponent < 0) n.exponent.natAbs
  if n.negative then -magnitude else magnitude

def readSign : List Char → Bool × List Char
  | '-' :: s => (true, s)
  | '+' :: s => (false, s)
  | s => (false, s)

/-- The exponent part of a numeral, which runs to the end of the text. -/
def readExponent? : List Char → Option Int
  | [] => some 0
  | c :: s =>
    if c = 'e' ∨ c = 'E' then
      let (negative, ds) := readSign s
      (natural? ds).map fun n => if negative then -(n : Int) else n
    else none

/-- An unsigned numeral: digits with an optional fraction, at least one digit in all, and an
optional exponent. -/
def readUnsigned? (negative : Bool) (s : List Char) : Option Numeral :=
  let whole := s.takeWhile Char.isDigit
  let rest := s.dropWhile Char.isDigit
  let (fraction, rest) := match rest with
    | '.' :: r => (r.takeWhile Char.isDigit, r.dropWhile Char.isDigit)
    | r => ([], r)
  if whole = [] ∧ fraction = [] then none
  else (readExponent? rest).map fun e =>
    ⟨negative, valueOfDigits (whole ++ fraction), e - fraction.length⟩

/-- Reads a number: a decimal numeral, `inf`, `infinity` or `nan`, with an optional sign, in any
letter case. -/
def readFloat? (s : List Char) : Option Float :=
  let (negative, body) := readSign s
  let lower := body.map Char.toLower
  if lower = "inf".toList ∨ lower = "infinity".toList then
    some (if negative then -infinity else infinity)
  else if lower = "nan".toList then some nan
  else (readUnsigned? negative body).map Numeral.toFloat

end BenchCharts.Decimal

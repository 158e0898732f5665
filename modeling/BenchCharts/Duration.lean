import BenchCharts.Decimal.Numeral
import BenchCharts.Text.Blank
import BenchCharts.Text.Digit
import BenchCharts.Text.Search
import BenchCharts.Text.Word
import BenchCharts.TimeUnit

/-!
Durations in free text. The first numeral with a unit counts, as in `avg: 12.4 µs/iter`; a text
without one has to be a bare number of nanoseconds. What is neither is not a number.
-/

namespace BenchCharts.Duration

open Text Decimal

/-- The letters of a numeral from its sign to its exponent, and the text behind it. Digits of any
script belong to it. -/
def numeral? (s : List Char) : Option (List Char × List Char) :=
  let (sign, s₁) := match s with
    | '-' :: r => (['-'], r)
    | '+' :: r => (['+'], r)
    | r => ([], r)
  let whole := s₁.takeWhile isDecimal
  let s₂ := s₁.dropWhile isDecimal
  let (fraction, s₃) := match s₂ with
    | '.' :: r => ('.' :: r.takeWhile isDecimal, r.dropWhile isDecimal)
    | r => ([], r)
  if whole = [] ∧ fraction.length < 2 then none
  else
    let (exponent, s₄) := exponent s₃
    some (sign ++ whole ++ fraction ++ exponent, s₄)
where
  /-- An exponent, empty where there is no digit after its mark. -/
  exponent : List Char → List Char × List Char
    | [] => ([], [])
    | mark :: r =>
      if mark = 'e' ∨ mark = 'E' then
        let (sign, r₁) := match r with
          | '-' :: r₁ => (['-'], r₁)
          | '+' :: r₁ => (['+'], r₁)
          | r₁ => ([], r₁)
        let ds := r₁.takeWhile isDecimal
        if ds = [] then ([], mark :: r) else (mark :: sign ++ ds, r₁.dropWhile isDecimal)
      else ([], mark :: r)

/-- The letter `s` in any case. The long s is one of its forms. -/
def isLetterS (c : Char) : Bool :=
  c == 's' || c == 'S' || c == 'ſ'

/-- The letters of a unit, which no word character may follow. -/
def unit? : List Char → Option (List Char × List Char)
  | a :: b :: r =>
    if (a.toLower = 'n' ∨ a.toLower = 'u' ∨ a.toLower = 'm') ∧ isLetterS b then
      if endsWord r then some ([a, b], r) else none
    else if isLetterS a ∧ endsWord (b :: r) then some ([a], b :: r)
    else none
  | [a] => if isLetterS a then some ([a], []) else none
  | [] => none

/-- A numeral, blanks and a unit: the letters of both. -/
def token? (s : List Char) : Option ((List Char × List Char) × List Char) := do
  let (number, rest) ← numeral? s
  let (unit, rest) ← unit? (skipBlanks rest)
  return ((number, unit), rest)

/-- Both micro signs are written `u`. -/
def plainMicro (c : Char) : Char :=
  if c = 'µ' ∨ c = 'μ' then 'u' else c

/-- The duration in nanoseconds that a text denotes. -/
def nanosOfText (s : List Char) : Float :=
  let s := s.map plainMicro
  match leftmost? token? s with
  | none => (readFloat? (trim s)).getD nan
  | some ⟨_, (number, unit), _⟩ =>
    match readFloat? number, TimeUnit.ofAnyCase? unit with
    | some x, some unit => x * unit.nanos
    | _, _ => nan

end BenchCharts.Duration

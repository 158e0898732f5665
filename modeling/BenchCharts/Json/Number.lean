import BenchCharts.Decimal.Numeral
import BenchCharts.Json
import BenchCharts.Json.Fault

/-!
JSON numbers. An integer of 64 bits is read exactly. Any other number is a significand of 64 bits,
which takes digits as long as they fit, times a power of ten; the product is rounded once, and once
more for each factor `1e308` below it.
-/

namespace BenchCharts.Json

open Decimal

/-- Takes digits while the number stays within `limit`: the number, and how many digits are left
over. -/
def gather (limit n : Nat) : List Char → Nat × Nat
  | [] => (n, 0)
  | d :: ds =>
    let next := 10 * n + (d.toNat - '0'.toNat)
    if next ≤ limit then gather limit next ds else (n, ds.length + 1)

/-- Powers of ten up to this one are doubles. -/
def maxPower : Nat := 308

/-- `x · 10 ^ exponent` for `x` not below zero, `none` where it overflows. A negative exponent is
worked off `maxPower` at a time, in at most `steps` steps. -/
def scaleByTen (steps : Nat) (x : Float) (exponent : Int) : Option Float :=
  if 0 ≤ exponent then
    if exponent ≤ maxPower then
      let y := x * Float.ofScientific 1 false exponent.toNat
      if y.isInf then none else some y
    else if x == 0.0 then some x
    else none
  else if -exponent ≤ maxPower then some (x / Float.ofScientific 1 false exponent.natAbs)
  else if x == 0.0 then some x
  else match steps with
    | 0 => some 0.0
    | n + 1 => scaleByTen n (x / Float.ofScientific 1 false maxPower) (exponent + maxPower)

def scaleSteps : Nat := 4

def withSign (negative : Bool) (x : Float) : Json :=
  .float (if negative then -x else x)

/-- A number with a fraction, an exponent or too many digits. -/
def floatOf (negative : Bool) (significand : Nat) (exponent : Int) (rest : List Char) :
    Except Fault (Json × List Char) :=
  match scaleByTen scaleSteps (Float.ofNat significand) exponent with
  | some x => .ok (withSign negative x, rest)
  | none => failHere .outOfRange rest

/-- The largest exponent that is counted out. -/
def maxExponent : Nat := Nat.pow 2 31 - 1

def readScientific (negative : Bool) (significand : Nat) (exponent : Int) :
    Reader Json := fun s =>
  let (down, s) := readSign s
  match s with
  | [] => failHere .endInValue []
  | c :: r =>
    if c.isDigit then
      let ds := s.takeWhile Char.isDigit
      let rest := s.dropWhile Char.isDigit
      let (e, left) := gather maxExponent 0 ds
      if left = 0 then
        floatOf negative significand (if down then exponent - e else exponent + e) rest
      else if significand ≠ 0 ∧ !down then
        failHere .outOfRange (ds.drop (ds.length - left + 1) ++ rest)
      else .ok (withSign negative 0.0, rest)
    else failNext .invalidNumber (c :: r)

/-- Reads what may follow the digits of a number: an exponent. -/
def readTail (negative : Bool) (significand : Nat) (exponent : Int) : Reader Json
  | [] => floatOf negative significand exponent []
  | c :: r =>
    if c = 'e' ∨ c = 'E' then readScientific negative significand exponent r
    else floatOf negative significand exponent (c :: r)

def readFraction (negative : Bool) (significand : Nat) (exponent : Int) : Reader Json := fun s =>
  let ds := s.takeWhile Char.isDigit
  let rest := s.dropWhile Char.isDigit
  if ds = [] then
    if rest = [] then failNext .endInValue rest else failNext .invalidNumber rest
  else
    let (significand, left) := gather maxCount significand ds
    readTail negative significand (exponent - (ds.length - left : Nat)) rest

/-- A number without fraction and exponent. Zero with a minus sign is a double, and so is a number
below the integers of 64 bits. -/
def integerOf (negative : Bool) (n : Nat) : Json :=
  if !negative then .int n
  else if n = 0 ∨ Nat.pow 2 63 < n then .float (-Float.ofNat n)
  else .int (-n)

def readAfterWhole (negative : Bool) (significand left : Nat) : Reader Json
  | '.' :: r => readFraction negative significand left r
  | s =>
    match s with
    | c :: r =>
      if c = 'e' ∨ c = 'E' then readScientific negative significand left r
      else plain s
    | [] => plain s
where
  plain (s : List Char) : Except Fault (Json × List Char) :=
    if left = 0 then .ok (integerOf negative significand, s)
    else floatOf negative significand left s

def readUnsigned (negative : Bool) : Reader Json
  | [] => failHere .endInValue []
  | c :: r =>
    if c = '0' then
      if (r.takeWhile Char.isDigit) = [] then readAfterWhole negative 0 0 r
      else failNext .invalidNumber r
    else if c.isDigit then
      let (significand, left) := gather maxCount 0 ((c :: r).takeWhile Char.isDigit)
      readAfterWhole negative significand left ((c :: r).dropWhile Char.isDigit)
    else failNext .invalidNumber (c :: r)

end BenchCharts.Json

import BenchCharts.Decimal.Numeral
import BenchCharts.Json.Reader
import BenchCharts.Toml

/-!
The values of TOML that stand on one line without quotes: numbers, booleans, dates and times.
-/

namespace BenchCharts.Toml

open Decimal

/-- The digits of a number in which single underscores stand between digits. -/
def digitGroups? (isDigit : Char → Bool) : List Char → Option (List Char)
  | [] => none
  | [c] => if isDigit c then some [c] else none
  | c :: '_' :: r => if isDigit c then (digitGroups? isDigit r).map (c :: ·) else none
  | c :: r => if isDigit c then (digitGroups? isDigit r).map (c :: ·) else none

def isBinary (c : Char) : Bool := c == '0' || c == '1'

def isOctal (c : Char) : Bool := '0' ≤ c && c ≤ '7'

def isHexadecimal (c : Char) : Bool := (Json.hexValue? c).isSome

def valueInBase (base : Nat) (ds : List Char) : Nat :=
  ds.foldl (fun n d => base * n + (Json.hexValue? d).getD 0) 0

/-- Digits of a decimal integer, which has no zero in front. -/
def wholeDigits? (s : List Char) : Option (List Char) :=
  (digitGroups? Char.isDigit s).filter fun ds => ds = ['0'] || ds.head? != some '0'

/-- The integers of 128 bits, with and without a sign. -/
def inRange (n : Int) : Bool :=
  -((Nat.pow 2 127 : Nat) : Int) ≤ n && n < (Nat.pow 2 128 : Nat)

/-- The number that an integer names, whatever its size. -/
def integerValue? (s : List Char) : Option Int :=
  match s with
  | '0' :: 'x' :: r => (digitGroups? isHexadecimal r).map fun ds => valueInBase 16 ds
  | '0' :: 'o' :: r => (digitGroups? isOctal r).map fun ds => valueInBase 8 ds
  | '0' :: 'b' :: r => (digitGroups? isBinary r).map fun ds => valueInBase 2 ds
  | s =>
    let (negative, r) := readSign s
    (wholeDigits? r).map fun ds =>
      if negative then -(valueOfDigits ds : Int) else valueOfDigits ds

def integer? (s : List Char) : Option Toml :=
  ((integerValue? s).filter inRange).map integer

/-- The exponent of a float; its mark is required unless there is a fraction. -/
def exponent? (required : Bool) : List Char → Option Int
  | [] => if required then none else some 0
  | mark :: r =>
    if mark = 'e' ∨ mark = 'E' then
      let (negative, r) := readSign r
      (digitGroups? Char.isDigit r).map fun ds =>
        if negative then -(valueOfDigits ds : Int) else valueOfDigits ds
    else none

def isDigitOrGroup (c : Char) : Bool := c.isDigit || c == '_'

/-- What follows the whole part of a float: the digits of its fraction and its exponent. -/
def fraction? : List Char → Option (List Char × Int)
  | '.' :: r => do
    let ds ← digitGroups? Char.isDigit (r.takeWhile isDigitOrGroup)
    let e ← exponent? false (r.dropWhile isDigitOrGroup)
    return (ds, e)
  | r => (exponent? true r).map (([], ·))

def float? (s : List Char) : Option Toml :=
  let (negative, r) := readSign s
  if r = "inf".toList then some (float (if negative then -infinity else infinity))
  else if r = "nan".toList then some (float nan)
  else do
    let whole ← wholeDigits? (r.takeWhile isDigitOrGroup)
    let (ds, e) ← fraction? (r.dropWhile isDigitOrGroup)
    let x := Numeral.toFloat ⟨negative, valueOfDigits (whole ++ ds), e - ds.length⟩
    if x.isInf then none else some (float x)

/-- A number of exactly `width` digits between two limits, and the text behind it. -/
def field? (width low high : Nat) (s : List Char) : Option (Nat × List Char) := do
  let n ← natural? (s.take width)
  if (s.take width).length = width ∧ low ≤ n ∧ n ≤ high then return (n, s.drop width) else none

def skipChar? (c : Char) : List Char → Option (List Char)
  | d :: r => if d = c then some r else none
  | [] => none

def daysIn (year month : Nat) : Nat :=
  match month with
  | 2 => if year % 4 = 0 ∧ (year % 100 ≠ 0 ∨ year % 400 = 0) then 29 else 28
  | 4 | 6 | 9 | 11 => 30
  | _ => 31

def date? (s : List Char) : Option (List Char) := do
  let (year, r) ← field? 4 0 9999 s
  let (month, r) ← field? 2 1 12 (← skipChar? '-' r)
  let (_, r) ← field? 2 1 (daysIn year month) (← skipChar? '-' r)
  return r

/-- Skips a time of day; seconds and their fraction may be left out. -/
def time? (s : List Char) : Option (List Char) := do
  let (_, r) ← field? 2 0 23 s
  let (_, r) ← field? 2 0 59 (← skipChar? ':' r)
  match r with
  | ':' :: r =>
    let (_, r) ← field? 2 0 60 r
    match r with
    | '.' :: r =>
      if r.takeWhile Char.isDigit = [] then none else return r.dropWhile Char.isDigit
    | r => return r
  | r => return r

/-- Skips the offset from universal time, if there is one. -/
def offset? : List Char → Option (List Char)
  | 'Z' :: r => some r
  | 'z' :: r => some r
  | '+' :: r => hours r
  | '-' :: r => hours r
  | r => some r
where
  hours (r : List Char) : Option (List Char) := do
    let (_, r) ← field? 2 0 23 r
    let (_, r) ← field? 2 0 59 (← skipChar? ':' r)
    return r

/-- A date, a time of day, or both with an optional offset. -/
def moment? (s : List Char) : Option Toml := do
  let rest ← match date? s with
    | some [] => some []
    | some (c :: r) =>
      if c = 'T' ∨ c = 't' ∨ c = ' ' then (time? r).bind offset? else none
    | none => time? s
  if rest = [] then return moment (String.ofList s) else none

def scalar? (s : List Char) : Option Toml :=
  if s = "true".toList then some (boolean true)
  else if s = "false".toList then some (boolean false)
  else (integer? s).or ((float? s).or (moment? s))

end BenchCharts.Toml

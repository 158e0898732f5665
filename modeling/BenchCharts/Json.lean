import BenchCharts.Decimal.Shortest
import BenchCharts.Fields

/-!
JSON values and their compact text.
-/

namespace BenchCharts

/-- A JSON value. Integers of 64 bits, with or without a sign, stay integers; other numbers are
doubles. -/
inductive Json where
  | null
  | bool (b : Bool)
  | int (n : Int)
  | float (x : Float)
  | string (s : String)
  | array (items : List Json)
  | object (fields : List (String × Json))
  deriving Inhabited

namespace Json

open Decimal

def hexDigit (n : Nat) : Char :=
  if n < 10 then Char.ofNat (n + 48) else Char.ofNat (n + 87)

/-- One character inside quotes. Quotes, backslashes and control characters are escaped, nothing
else. -/
def escaped (c : Char) : List Char :=
  if c = '"' then ['\\', '"']
  else if c = '\\' then ['\\', '\\']
  else if c = '\n' then ['\\', 'n']
  else if c = '\t' then ['\\', 't']
  else if c = '\r' then ['\\', 'r']
  else if c.toNat = 8 then ['\\', 'b']
  else if c.toNat = 12 then ['\\', 'f']
  else if c.toNat < 32 then ['\\', 'u', '0', '0', hexDigit (c.toNat / 16), hexDigit (c.toNat % 16)]
  else [c]

def quoted (s : String) : List Char :=
  '"' :: s.toList.flatMap escaped ++ ['"']

/-- The digits of a positive double: positional where the point falls from four places in front of
them to sixteen behind the first, with an exponent otherwise. -/
def layoutDigits (d : Digits) : List Char :=
  let ds := digits d.significand
  let point : Int := ds.length + d.power
  if 0 ≤ d.power ∧ point ≤ 16 then
    ds ++ List.replicate d.power.toNat '0' ++ ['.', '0']
  else if 0 < point ∧ point ≤ 16 then
    ds.take point.toNat ++ '.' :: ds.drop point.toNat
  else if -5 < point ∧ point ≤ 0 then
    '0' :: '.' :: List.replicate (-point).toNat '0' ++ ds
  else
    let mantissa := match ds with
      | [] => []
      | [c] => [c]
      | c :: rest => c :: '.' :: rest
    let sign := if point ≤ 0 then '-' else '+'
    mantissa ++ 'e' :: sign :: digits (point - 1).natAbs

/-- The fewest digits that read back. What is not finite has no number in JSON. -/
def floatText (x : Float) : List Char :=
  match Exact.ofFloat x with
  | .finite negative magnitude =>
    signText negative ++
      (if magnitude = 0 then "0.0".toList else layoutDigits (shortest x.abs magnitude))
  | _ => "null".toList

mutual

/-- The text of a value without blanks. -/
def compact : Json → List Char
  | null => "null".toList
  | bool true => "true".toList
  | bool false => "false".toList
  | int n => integerText n
  | float x => floatText x
  | string s => quoted s
  | array items => '[' :: compactItems items ++ [']']
  | object fields => '{' :: compactFields fields ++ ['}']

def compactItems : List Json → List Char
  | [] => []
  | [v] => compact v
  | v :: vs => compact v ++ ',' :: compactItems vs

def compactFields : List (String × Json) → List Char
  | [] => []
  | [(k, v)] => quoted k ++ ':' :: compact v
  | (k, v) :: fs => quoted k ++ ':' :: compact v ++ ',' :: compactFields fs

end

end Json

end BenchCharts

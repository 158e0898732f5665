import BenchCharts.Decimal.Exact
import BenchCharts.Decimal.Natural

/-!
Numbers with a fixed number of decimal places, and in scientific notation. Both round the exact
value, a half to the even neighbour, and keep the sign of what rounds to zero.
-/

namespace BenchCharts.Decimal

def signText (negative : Bool) : List Char :=
  if negative then ['-'] else []

/-- A magnitude with `places` decimal places. -/
def fixed (places : Nat) (negative : Bool) (magnitude : Rat) : List Char :=
  let n := roundHalfEven (magnitude * powTen places)
  let fraction := if places = 0 then [] else '.' :: paddedDigits places (n % Nat.pow 10 places)
  signText negative ++ digits (n / Nat.pow 10 places) ++ fraction

/-- The power of ten at the first digit of a positive number. -/
def leadingPower (q : Rat) : Int :=
  let guess : Int := (digits q.num.toNat).length - (digits q.den).length
  if powTen guess ≤ q then guess else guess - 1

/-- One digit, `places` decimal places and an exponent. -/
def scientific (places : Nat) (negative : Bool) (magnitude : Rat) : List Char :=
  let (n, power) : Nat × Int :=
    if magnitude = 0 then (0, 0)
    else
      let power := leadingPower magnitude
      let n := roundHalfEven (magnitude * powTen (places - power))
      if n < Nat.pow 10 (places + 1) then (n, power) else (n / 10, power + 1)
  let fraction := if places = 0 then [] else '.' :: paddedDigits places (n % Nat.pow 10 places)
  signText negative ++ digits (n / Nat.pow 10 places) ++ fraction ++ 'e' :: integerText power

/-- The text of a double whose finite values are written by `write`. -/
def Exact.text (write : Bool → Rat → List Char) : Exact → List Char
  | .nan => "NaN".toList
  | .infinite negative => signText negative ++ "inf".toList
  | .finite negative magnitude => write negative magnitude

def fixedText (places : Nat) (x : Float) : List Char :=
  (Exact.ofFloat x).text (fixed places)

def scientificText (places : Nat) (x : Float) : List Char :=
  (Exact.ofFloat x).text (scientific places)

end BenchCharts.Decimal

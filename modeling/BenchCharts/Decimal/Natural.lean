/-!
Decimal text of natural numbers, read and written.
-/

namespace BenchCharts.Decimal

/-- The number that a row of ASCII digits denotes. -/
def valueOfDigits (ds : List Char) : Nat :=
  ds.foldl (fun n d => 10 * n + (d.toNat - '0'.toNat)) 0

/-- Reads a natural number; every character has to be an ASCII digit, and there has to be one. -/
def natural? (s : List Char) : Option Nat :=
  if s ≠ [] ∧ s.all Char.isDigit then some (valueOfDigits s) else none

/-- Counts are the natural numbers of 64 bits. -/
def maxCount : Nat := Nat.pow 2 64 - 1

/-- Reads a count; a larger number is none. -/
def count? (s : List Char) : Option Nat :=
  (natural? s).filter (· ≤ maxCount)

def digits (n : Nat) : List Char :=
  Nat.toDigits 10 n

/-- The decimal digits of `n`, with zeros in front up to `width` of them. -/
def paddedDigits (width n : Nat) : List Char :=
  List.replicate (width - (digits n).length) '0' ++ digits n

def integerText (n : Int) : List Char :=
  if n < 0 then '-' :: digits n.natAbs else digits n.natAbs

@[simp] theorem valueOfDigits_nil : valueOfDigits [] = 0 := rfl

theorem valueOfDigits_concat (ds : List Char) (d : Char) :
    valueOfDigits (ds ++ [d]) = 10 * valueOfDigits ds + (d.toNat - '0'.toNat) := by
  simp [valueOfDigits]

@[simp] theorem natural?_nil : natural? [] = none := rfl

end BenchCharts.Decimal

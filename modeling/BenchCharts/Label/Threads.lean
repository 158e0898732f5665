import BenchCharts.Decimal.Natural
import BenchCharts.Text.Blank
import BenchCharts.Text.Digit
import BenchCharts.Text.Search

/-!
Thread counts in the labels of runs under load: `main` is one thread, `main + 3 extra threads` four.
-/

namespace BenchCharts.Label

open Text Decimal

/-- Skips a word of lower-case letters in any letter case; an `s` also matches the long s. -/
def skipWord? : List Char → List Char → Option (List Char)
  | [], s => some s
  | _ :: _, [] => none
  | w :: ws, c :: s =>
    if c.toLower = w ∨ (w = 's' ∧ c = 'ſ') then skipWord? ws s else none

/-- `main + 3 extra threads`: the digits of the extra threads. -/
def extraThreads? (s : List Char) : Option (List Char × List Char) := do
  let r ← skipWord? "main".toList s
  let r ← skip? ['+'] (skipBlanks r)
  let r := skipBlanks r
  let ds := r.takeWhile isDecimal
  if ds = [] then none
  else
    let r ← skipWord? "extra".toList (skipBlanks (r.dropWhile isDecimal))
    let r ← skipWord? "threads".toList (skipBlanks r)
    return (ds, r)

/-- All threads of a run, the main one included. A sum of more than 64 bits is none. -/
def threadsOfText? (s : List Char) : Option Nat :=
  if (trim s).map Char.toLower = "main".toList then some 1
  else do
    let m ← leftmost? extraThreads? s
    let extra ← count? m.value
    if extra + 1 ≤ maxCount then some (extra + 1) else none

end BenchCharts.Label

import BenchCharts.Decimal.Natural
import BenchCharts.Json
import BenchCharts.Text.Blank
import BenchCharts.Text.Digit
import BenchCharts.Text.Search
import BenchCharts.Text.Word

/-!
Labels of benchmark rows, such as `string -> (10)`, `echo (1000)` or `knitting → 100`: a category
and the count that it was measured at.
-/

namespace BenchCharts

/-- A row's category, and its count where the label carries one. -/
structure Label where
  category : String
  count : Option Nat
  deriving DecidableEq, Repr

namespace Label

open Text Decimal

/-- Skips an arrow, `->` or `→`. -/
def skipArrow? : List Char → Option (List Char)
  | '-' :: '>' :: r => some r
  | '→' :: r => some r
  | _ => none

/-- The digits at the head of a text, at least one. -/
def takeDigits? (s : List Char) : Option (List Char × List Char) :=
  let ds := s.takeWhile isDecimal
  if ds = [] then none else some (ds, s.dropWhile isDecimal)

/-- `( 10 )`: the digits between the parentheses. -/
def parenthesized? (s : List Char) : Option (List Char × List Char) := do
  let r ← skip? ['('] s
  let (ds, r) ← takeDigits? (skipBlanks r)
  let r ← skip? [')'] (skipBlanks r)
  return (ds, r)

inductive Notation where
  /-- `-> (10)` -/
  | arrowParenthesis
  /-- `(10)` at the end of the label -/
  | trailingParenthesis
  /-- `-> 10` -/
  | arrow

/-- Reads the notation at the head of a text: the digits of the count. -/
def Notation.form? : Notation → List Char → Option (List Char × List Char)
  | arrowParenthesis, s => do
    let r ← skipArrow? s
    parenthesized? (skipBlanks r)
  | trailingParenthesis, s => do
    let (ds, r) ← parenthesized? s
    let r := skipBlanks r
    if r = [] then some (ds, r) else none
  | arrow, s => do
    let r ← skipArrow? s
    let (ds, r) ← takeDigits? (skipBlanks r)
    if endsWord r then some (ds, r) else none

/-- The notations, the deciding one first. -/
def notations : List Notation := [.arrowParenthesis, .trailingParenthesis, .arrow]

def dropArrow? (s : List Char) : Option (List Char) :=
  match s.reverse with
  | '>' :: '-' :: r => some r.reverse
  | '→' :: r => some r.reverse
  | _ => none

theorem length_of_dropArrow? {s r : List Char} (h : dropArrow? s = some r) :
    r.length < s.length := by
  unfold dropArrow? at h
  split at h
  · next t ht =>
    cases h
    have := congrArg List.length ht
    simp at this
    simp
    omega
  · next t ht =>
    cases h
    have := congrArg List.length ht
    simp at this
    simp
    omega
  · cases h

theorem length_trimEnd_le (s : List Char) : (trimEnd s).length ≤ s.length := by
  simp only [trimEnd, List.length_reverse]
  have h : (s.reverse.dropWhile isBlank).length ≤ s.reverse.length :=
    (List.dropWhile_sublist _).length_le
  simpa using h

def dropArrows (s : List Char) : List Char :=
  match _h : dropArrow? s with
  | some r => dropArrows (trimEnd r)
  | none => s
termination_by s.length
decreasing_by
  have := length_of_dropArrow? _h
  have := length_trimEnd_le r
  omega

def categoryOf (s : List Char) : List Char :=
  trim (dropArrows (trimEnd s))

/-- Reads a trimmed label by one notation. A count of more than 64 bits is no match. -/
def byNotation? (s : List Char) (n : Notation) : Option Label := do
  let m ← leftmost? n.form? s
  let count ← count? m.value
  return ⟨String.ofList (categoryOf m.before), some count⟩

/-- Splits a label by the first notation that matches. -/
def ofText (s : List Char) : Label :=
  let s := trim s
  (notations.findSome? (byNotation? s)).getD ⟨String.ofList s, none⟩

/-- The label in a document. A text is split; anything else is a category as it stands, and a null
is none. -/
def ofJson : Json → Label
  | .string s => ofText s.toList
  | .null => ⟨"", none⟩
  | v => ⟨String.ofList v.compact, none⟩

end Label

end BenchCharts

import BenchCharts.Text.Blank
import BenchCharts.Text.CaseTable
import BenchCharts.Text.Ranges

/-!
Full case mapping. A capital sigma that ends a word becomes the final form `ς`, every other one `σ`.
-/

namespace BenchCharts.Text

/-- The first image of `n` under the runs. -/
def mapByRuns (runs : List CaseRun) (n : Nat) : Option Nat :=
  runs.findSome? (·.image? n)

/-- The lower-case form of one character, without regard to its neighbours. -/
def lowerChar (c : Char) : List Char :=
  if c.toNat < 128 then [c.toLower]
  else match lowerSpecials.lookup c.toNat with
    | some ns => ns.map Char.ofNat
    | none => [((mapByRuns lowerRuns c.toNat).map Char.ofNat).getD c]

/-- The upper-case form of one character. -/
def upperChar (c : Char) : List Char :=
  if c.toNat < 128 then [c.toUpper]
  else match upperSpecials.lookup c.toNat with
    | some ns => ns.map Char.ofNat
    | none => [((mapByRuns upperRuns c.toNat).map Char.ofNat).getD c]

def isCased (c : Char) : Bool :=
  if c.toNat < 128 then c.isAlpha else inRanges casedRanges c.toNat

def isCaseIgnorable (c : Char) : Bool :=
  inRanges caseIgnorableRanges c.toNat

/-- Whether the nearest character that is not passed over has a case. -/
def meetsCased (s : List Char) : Bool :=
  match s.dropWhile isCaseIgnorable with
  | [] => false
  | c :: _ => isCased c

/-- Lower-cases `s`, where `before` is the text in front of it, last character first. -/
def lowerAfter (before : List Char) : List Char → List Char
  | [] => []
  | c :: s =>
    (if c = 'Σ' then [if meetsCased before && !meetsCased s then 'ς' else 'σ'] else lowerChar c)
      ++ lowerAfter (c :: before) s

def lower (s : List Char) : List Char :=
  lowerAfter [] s

@[simp] theorem lower_nil : lower [] = [] := rfl

/-- The lower-case form of a text. -/
def toLower (s : String) : String :=
  String.ofList (lower s.toList)

/-- The text with its first character in upper case. -/
def capitalize : List Char → List Char
  | [] => []
  | c :: s => upperChar c ++ s

/-- The text with each of its words capitalized and one space between them. -/
def titleCase (s : List Char) : List Char :=
  [' '].intercalate ((words s).map capitalize)

end BenchCharts.Text

import BenchCharts.Duration
import BenchCharts.Group
import BenchCharts.Label.Threads
import BenchCharts.Label

/-!
Rows of a result document: their label, their average latency, and what a group set makes of them.
-/

namespace BenchCharts

open Text

/-- The latency that a JSON value denotes. Numbers are nanoseconds, texts may carry a unit, and
anything else is not a number. -/
def Duration.nanosOfJson : Json → Float
  | .int n => Float.ofInt n
  | .float x => x
  | .string s => nanosOfText s.toList
  | _ => Decimal.nan

/-- The category of rows whose label carries a count only. -/
def defaultCategory : String := "default"

/-- One row, a mapping. -/
abbrev Row := Fields Json

namespace Row

def isTelling : Json → Bool
  | .null => false
  | .string s => s ≠ ""
  | _ => true

/-- The first field of `names` whose value is kept by `keep`. -/
def firstField? (row : Row) (names : List String) (keep : Json → Bool) : Option Json :=
  names.findSome? fun name => (row.get? name).filter keep

/-- The label: the field `label`, or else `name`. -/
def label (row : Row) : Json :=
  (row.firstField? ["label", "name"] isTelling).getD .null

def isPresent : Json → Bool
  | .null => false
  | _ => true

/-- The field `avg` of the field `stats`. -/
def statsAverage? (row : Row) : Option Json :=
  match row.get? "stats" with
  | some (.object stats) => (Fields.get? stats "avg").filter isPresent
  | _ => none

/-- The average latency: that of the statistics, or else the field `avg`, `average` or `mean`. -/
def average? (row : Row) : Option Json :=
  row.statsAverage?.or (row.firstField? ["avg", "average", "mean"] isPresent)

def nanos (row : Row) : Float :=
  (row.average?.map Duration.nanosOfJson).getD Decimal.nan

/-- The text of the label; a label that is no text has none. -/
def labelText? (row : Row) : Option String :=
  match row.label with
  | .string s => some s
  | _ => none

/-- The count of a row whose label has the given shape. -/
def count? (row : Row) : Shape → Option Nat
  | .count | .typed => (Label.ofJson row.label).count
  | .threads => row.labelText?.bind fun s => Label.threadsOfText? s.toList

/-- The category of a row whose label has the given shape. -/
def category (row : Row) : Shape → String
  | .typed =>
    let category := (Label.ofJson row.label).category
    if category = "" then defaultCategory else category
  | .count | .threads => defaultCategory

end Row

/-- Where the rows under a key belong. -/
inductive Destination where
  /-- Each to the group that it names. -/
  | pooled
  | group (index : Nat)

/-- What becomes of one item of a list of rows. -/
inductive Verdict where
  /-- It is no mapping, or it names no group. -/
  | unroutable
  | noCount
  | noValue
  | accepted (group count : Nat) (category : String) (nanos : Float)

namespace GroupSet

/-- The group that a pooled row names: by its field `group`, or else `mode`, or else by the first
group name in its label. -/
def route (set : GroupSet) (row : Row) : Option Nat :=
  let hinted := ["group", "mode"].findSome? fun field =>
    match row.get? field with
    | some (.string hint) => set.resolve hint
    | _ => none
  let label := lower (row.labelText?.getD "").toList
  hinted.or (set.groups.findIdx? fun g => occursIn g.name.toList label)

/-- Where the rows under a document key belong; `none` if the key is not known. -/
def destination? (set : GroupSet) (key : String) : Option Destination :=
  if set.isPooled key then some .pooled else (set.resolve key).map .group

/-- The group of a row on its way to a destination. -/
def groupOf (set : GroupSet) (row : Row) : Destination → Option Nat
  | .pooled => set.route row
  | .group index => some index

/-- What becomes of a row of a group. -/
def judgeRow (set : GroupSet) (group : Nat) (row : Row) : Verdict :=
  match row.count? set.shape with
  | none => .noCount
  | some count =>
    if row.nanos.isNaN then .noValue
    else .accepted group count (row.category set.shape) row.nanos

/-- What becomes of an item of a list of rows. -/
def judge (set : GroupSet) (destination : Destination) : Json → Verdict
  | .object row =>
    match set.groupOf row destination with
    | some group => set.judgeRow group row
    | none => .unroutable
  | _ => .unroutable

end GroupSet

end BenchCharts

import BenchCharts.Document
import BenchCharts.OrderedMap
import BenchCharts.Row

/-!
Datasets: the latencies of a document by group, count and category. The sections are walked in
order, and of several rows for one place the last one counts.
-/

namespace BenchCharts

abbrev CountSeries := OrderedMap Nat Float

abbrev CategoryMap := OrderedMap String Float

abbrev TypedSeries := OrderedMap Nat CategoryMap

namespace TypedSeries

def atCount (points : TypedSeries) (count : Nat) : CategoryMap :=
  (points.get? count).getD ∅

def set (points : TypedSeries) (count : Nat) (category : String) (nanos : Float) : TypedSeries :=
  points.insert count ((points.atCount count).insert category nanos)

end TypedSeries

/-- The points of one group. -/
inductive GroupSeries where
  /-- Every category is the default one. -/
  | perSize (points : CountSeries)
  | perType (points : TypedSeries)

namespace GroupSeries

/-- Drops the categories if there is only the default one. -/
def ofPoints (points : TypedSeries) : GroupSeries :=
  if points.entries.all fun e => e.2.keys.all (· == defaultCategory) then
    perSize (points.filterMapValues (·.get? defaultCategory))
  else perType points

def isEmpty : GroupSeries → Bool
  | perSize points => points.isEmpty
  | perType points => points.isEmpty

def counts : GroupSeries → List Nat
  | perSize points => points.keys
  | perType points => points.keys

def perSize? : GroupSeries → Option CountSeries
  | perSize points => some points
  | perType _ => none

def atCount : GroupSeries → Nat → CategoryMap
  | perSize points, count =>
    match points.get? count with
    | some nanos => OrderedMap.empty.insert defaultCategory nanos
    | none => ∅
  | perType points, count => points.atCount count

end GroupSeries

/-- How many items of the lists of rows were dropped. -/
structure SkipCounts where
  noCount : Nat
  noValue : Nat
  unroutable : Nat
  deriving DecidableEq, Repr

def SkipCounts.total (skipped : SkipCounts) : Nat :=
  skipped.noCount + skipped.noValue + skipped.unroutable

/-- The groups of one document that have points, in order of declaration. -/
structure Dataset where
  groups : Fields GroupSeries
  skipped : SkipCounts

namespace Verdict

def isUnroutable : Verdict → Bool
  | unroutable => true
  | _ => false

def isNoCount : Verdict → Bool
  | noCount => true
  | _ => false

def isNoValue : Verdict → Bool
  | noValue => true
  | _ => false

def addTo (group : Nat) (points : TypedSeries) : Verdict → TypedSeries
  | accepted g count category nanos =>
    if g = group then points.set count category nanos else points
  | _ => points

def pointsOf (verdicts : List Verdict) (group : Nat) : TypedSeries :=
  verdicts.foldl (addTo group) ∅

def skipCounts (verdicts : List Verdict) : SkipCounts :=
  ⟨verdicts.countP isNoCount, verdicts.countP isNoValue, verdicts.countP isUnroutable⟩

end Verdict

namespace GroupSet

/-- What becomes of the rows under one key. -/
def judgeEntry (set : GroupSet) (key : String) (value : Json) : List Verdict :=
  match set.destination? key, value with
  | some destination, .array items => items.map (set.judge destination)
  | _, _ => []

def judgeSection (set : GroupSet) (fields : Section) : List Verdict :=
  fields.flatMap fun (key, value) => set.judgeEntry key value

/-- What becomes of every row of a document, in the order of the walk. -/
def walk (set : GroupSet) (document : Document) : List Verdict :=
  document.toSections.flatMap set.judgeSection

end GroupSet

namespace Dataset

/-- Sorts the outcome of a walk into the groups of a set. -/
def ofVerdicts (set : GroupSet) (verdicts : List Verdict) : Dataset :=
  let filled := set.groups.zipIdx.filterMap fun (g, i) =>
    let points := Verdict.pointsOf verdicts i
    if points.isEmpty then none else some (g.name, GroupSeries.ofPoints points)
  ⟨Fields.ofPairs filled, Verdict.skipCounts verdicts⟩

/-- Takes the groups of a set out of a document. -/
def extract (document : Document) (set : GroupSet) : Dataset :=
  ofVerdicts set (set.walk document)

def get? (dataset : Dataset) (group : String) : Option GroupSeries :=
  Fields.get? dataset.groups group

/-- The points of a group that has no categories. -/
def perSize? (dataset : Dataset) (group : String) : Option CountSeries :=
  (dataset.get? group).bind (·.perSize?)

def isEmpty (dataset : Dataset) : Bool :=
  dataset.groups.all (·.2.isEmpty)

/-- The counts of all groups in ascending order. -/
def allCounts (dataset : Dataset) : List Nat :=
  sortedKeys (dataset.groups.flatMap (·.2.counts))

/-- The keys of a document that a set knows and whose value is no list. -/
def ignoredKeys (document : Document) (set : GroupSet) : List String :=
  document.toSections.flatMap fun fields => fields.filterMap fun (key, value) =>
    match set.destination? key, value with
    | some _, .array _ => none
    | some _, _ => some key
    | none, _ => none

/-- What is worth noting about the extraction. -/
def notes (document : Document) (set : GroupSet) : List String :=
  let skipped := (extract document set).skipped
  let dropped :=
    if skipped.total = 0 then []
    else [s!"Dropped {skipped.total} rows ({skipped.noCount} without count, " ++
      s!"{skipped.noValue} without value, {skipped.unroutable} unroutable)"]
  (ignoredKeys document set).map (fun key => s!"Ignoring non-list value under '{key}'") ++ dropped

end Dataset

end BenchCharts

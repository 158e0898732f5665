import BenchCharts.Dataset

/-!
Several series over one ascending axis. Series are compared at the counts that all of them have.
If they share none they are paired by position, which nothing but their order justifies. The union
keeps every count and leaves gaps.
-/

namespace BenchCharts

/-- How the axis of an alignment came about. -/
inductive Alignment.Kind where
  /-- The counts that all series share. -/
  | sharedCounts
  /-- The places 1, 2, … of the points of each series. -/
  | positional
  /-- The counts of any series. -/
  | union
  deriving DecidableEq, Repr

def Alignment.Kind.name : Alignment.Kind → String
  | sharedCounts => "SharedCounts"
  | positional => "Positional"
  | union => "Union"

structure Alignment where
  counts : List Nat
  /-- The values of each series along the axis; what is not a number is a gap. -/
  values : List (List Float)
  kind : Alignment.Kind

namespace CountSeries

/-- The points with a value that is a number. -/
def usable (series : CountSeries) : List (Nat × Float) :=
  series.entries.filter (!·.2.isNaN)

def usableCounts (series : CountSeries) : List Nat :=
  series.usable.map (·.1)

/-- The value at a count, or else a gap. -/
def valueAt (series : CountSeries) (count : Nat) : Float :=
  (series.get? count).getD Decimal.nan

end CountSeries

namespace Alignment

def length (a : Alignment) : Nat :=
  a.counts.length

def isEmpty (a : Alignment) : Bool :=
  a.counts.isEmpty

def isDegraded (a : Alignment) : Bool :=
  a.kind == .positional

/-- Whether the axis holds real counts and `count` among them. -/
def hasCount (a : Alignment) (count : Nat) : Bool :=
  !a.isDegraded && a.counts.contains count

/-- The counts at which every series is usable. -/
def sharedCounts : List CountSeries → List Nat
  | [] => []
  | first :: rest => first.usableCounts.filter fun k => rest.all (·.usableCounts.contains k)

/-- Pairs the points of the series by position, down to the shortest series. -/
def byPosition (series : List CountSeries) : Alignment :=
  let columns := series.map fun s => s.usable.map (·.2)
  let length := ((columns.map List.length).min?).getD 0
  ⟨(List.range length).map (· + 1), columns.map (·.take length), .positional⟩

/-- Aligns the series on the counts they share, or else by position. -/
def shared (series : List CountSeries) : Alignment :=
  if series.isEmpty then ⟨[], [], .sharedCounts⟩
  else
    let counts := sharedCounts series
    if counts.isEmpty then byPosition series
    else ⟨counts, series.map fun s => counts.map s.valueAt, .sharedCounts⟩

/-- Aligns the series on the counts of any of them. -/
def union (series : List CountSeries) : Alignment :=
  let counts := sortedKeys (series.flatMap (·.usableCounts))
  ⟨counts, series.map fun s => counts.map s.valueAt, .union⟩

/-- The labels of the axis. Positions are marked, so that none is taken for a count. -/
def ticks (a : Alignment) (suffix : String) : List String :=
  a.counts.map fun n => match a.kind with
    | .positional => s!"#{n}"
    | _ => s!"{n}{suffix}"

/-- What is worth noting about an alignment on shared counts. -/
def notes (series : List CountSeries) : List String :=
  let a := shared series
  if a.isDegraded ∧ !a.isEmpty then
    [s!"No shared counts across {series.length} series; pairing {a.length} points by position"]
  else []

end Alignment

/-- The categories of several maps: those of `preferred` that occur, in that order, and then the
others in ascending order. -/
def categoryAxis (preferred : List String) (maps : List CategoryMap) : List String :=
  let all := sortedKeys (maps.flatMap (·.keys))
  preferred.filter all.contains ++ all.filter (!preferred.contains ·)

end BenchCharts

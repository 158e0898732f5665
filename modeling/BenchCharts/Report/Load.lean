import BenchCharts.Report.Results

/-!
The report on work under load: how much faster several threads are than one, and how well they are
used.
-/

namespace BenchCharts.Load

def group : String := "knitting: primes"

/-- Keys that start with `knitting:` and `primes`, with any blanks between. -/
def groupPattern : Pattern :=
  let word := fun (s : String) => s.toList.foldr (fun c p => .seq (.one (.char c)) p) .empty
  .seq .start (.seq (word "knitting:") (.seq (.many (.one .blank)) (word "primes")))

def groupSet : GroupSet :=
  ⟨.threads, [.pattern group groupPattern], []⟩

def xLabel : String := "Total threads (main + extra)"

/-- How many times faster each number of threads is than one; there is none without the time of one
thread. -/
def speedup? (times : CountSeries) : Option CountSeries :=
  (times.get? 1).map fun one =>
    times.mapValues fun _ t => if 0.0 < t then one / t else Decimal.nan

/-- The share of each thread in the speedup, in percent. -/
def efficiency (speedup : CountSeries) : CountSeries :=
  speedup.mapValues fun threads s => s / Float.ofNat threads * 100.0

structure Scaling where
  source : String
  index : Nat
  speedup : CountSeries

def Scaling.efficiency (s : Scaling) : CountSeries :=
  Load.efficiency s.speedup

def times? (results : Results) : Option CountSeries :=
  results.dataset.perSize? group

/-- The speedup of a source that has times, one of them of one thread. -/
def scaling? (results : Results) : Option Scaling :=
  ((times? results).bind speedup?).map fun s => ⟨results.source, results.index, s⟩

def lines (a : Alignment) (scalings : List Scaling) (theme : Theme) : List Line :=
  (scalings.zip a.values).map fun (s, values) =>
    { label := s.source
      values
      color := theme.sourceColor s.source s.index
      marker := .ofIndex s.index
      dash := .solid }

/-- What the speedup would be if every thread worked as well as one alone. -/
def idealLine (threads : List Nat) (theme : Theme) : Line where
  label := "Ideal linear"
  values := threads.map Float.ofNat
  color := theme.reference
  marker := .cross
  dash := .dashed

def speedupChart (scalings : List Scaling) (config : Config) : Chart :=
  let a := Alignment.union (scalings.map (·.speedup))
  let chart : Chart :=
    { title := "With Load: Speedup vs Threads (primes benchmark)"
      xLabel
      yLabel := "Speedup vs 1 thread (×)"
      ticks := a.ticks "" }
  (chart.addLines (lines a scalings config.theme)).addLine (idealLine a.counts config.theme)

def efficiencyChart (scalings : List Scaling) (config : Config) : Chart :=
  let a := Alignment.union (scalings.map (·.efficiency))
  let chart : Chart :=
    { title := "With Load: Efficiency vs Threads (primes benchmark)"
      xLabel
      yLabel := "Parallel efficiency (%)"
      ticks := a.ticks "" }
  (chart.addLines (lines a scalings config.theme)).addReference ⟨100.0, "100 %"⟩

end BenchCharts.Load

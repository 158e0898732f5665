import BenchCharts.Source
import BenchCharts.Theme
import BenchCharts.TimeUnit

/-!
The configuration of reports. It is given to every report and never changes.
-/

namespace BenchCharts

structure Config where
  /-- The size of a chart in pixels. -/
  width : Nat
  height : Nat
  /-- Overrides the unit of the latency axis of each report. -/
  displayUnit : Option TimeUnit
  /-- Where a symlog axis turns linear, in the unit shown. -/
  symlogThreshold : Float
  theme : Theme
  sources : List Source

namespace Config

def standardSources : List Source :=
  [⟨"Node.js", "node", none⟩, ⟨"Deno", "deno", none⟩, ⟨"Bun", "bun", none⟩]

def standard : Config where
  width := 1280
  height := 960
  displayUnit := none
  symlogThreshold := 1.0
  theme := Theme.standard
  sources := standardSources

def unitOr (config : Config) (unit : TimeUnit) : TimeUnit :=
  config.displayUnit.getD unit

inductive Flaw where
  /-- It is no TOML, or a value is not of its kind. -/
  | unreadable
  | size
  | threshold
  | noSources
  deriving DecidableEq, Repr

def Flaw.message : Flaw → String
  | unreadable => "TOML parse error"
  | size => "width and height must be positive"
  | threshold => "symlog-threshold must be a positive number"
  | noSources => "at least one [[sources]] entry is required"

/-- The first flaw of a configuration whose values are of the right kinds. -/
def flaw? (config : Config) : Option Flaw :=
  if config.width = 0 ∨ config.height = 0 then some .size
  else if !(config.symlogThreshold.isFinite && 0.0 < config.symlogThreshold) then some .threshold
  else if config.sources.isEmpty then some .noSources
  else none

end Config

end BenchCharts

import BenchCharts.Plan.Ipc
import BenchCharts.Plan.Load
import BenchCharts.Plan.Overlay
import BenchCharts.Plan.Types

/-!
The commands of the program and the options that they take.
-/

namespace BenchCharts

inductive Command where
  | ipc (request : ReportRequest) (montage : Bool)
  | overlay (overlay : Overlay) (request : ReportRequest)
  | types (request : ReportRequest)
  | load (request : ReportRequest)
  | montage (images : List Path) (out : Path)

/-- What a command does. -/
def Command.plan (setting : Setting) (tree : FileTree) : Command → Plan
  | .ipc request joined => Ipc.plan setting tree request joined
  | .overlay kind request => kind.plan setting tree request
  | .types request => Types.plan setting tree request
  | .load request => Load.plan setting tree request
  | .montage images out => [.stitch images out]

/-- A command with the options that every command takes. -/
structure Invocation where
  command : Command
  config : Option Path
  verbosity : Nat

inductive Verb where
  | ipc
  | latency
  | multi
  | types
  | withload
  | montage
  deriving DecidableEq, Repr

namespace Verb

def all : List Verb := [ipc, latency, multi, types, withload, montage]

def name : Verb → String
  | ipc => "ipc"
  | latency => "latency"
  | multi => "multi"
  | types => "types"
  | withload => "withload"
  | montage => "montage"

def ofName? (name : String) : Option Verb :=
  all.find? (·.name == name)

def purpose : Verb → String
  | ipc => "IPC benchmark: knitting vs worker vs websocket vs http"
  | latency => "Latency benchmark: worker vs knitting, all runtimes on one chart"
  | multi => "Multi-threaded benchmark: worker vs knitting, all runtimes on one chart"
  | types => "Types benchmark: one chart per message count, payload types on the x axis"
  | withload => "With-load benchmark: speedup and parallel efficiency per thread count"
  | montage => "Stitch rendered charts side by side into one image"

end Verb

inductive Switch where
  | config
  | verbose
  | help
  | version
  | input
  | out
  | table
  | montage
  deriving DecidableEq, Repr

namespace Switch

def all : List Switch := [config, verbose, help, version, input, out, table, montage]

def long : Switch → String
  | config => "config"
  | verbose => "verbose"
  | help => "help"
  | version => "version"
  | input => "input"
  | out => "out"
  | table => "table"
  | montage => "montage"

def short? : Switch → Option Char
  | verbose => some 'v'
  | help => some 'h'
  | version => some 'V'
  | input => some 'i'
  | out => some 'o'
  | _ => none

def takesValue : Switch → Bool
  | config => true
  | input => true
  | out => true
  | _ => false

/-- The switches in front of a command. -/
def general : List Switch := [config, verbose, help, version]

/-- The switches behind a command. -/
def ofVerb : Verb → List Switch
  | .ipc => [config, verbose, help, input, out, table, montage]
  | .montage => [config, verbose, help, out]
  | _ => [config, verbose, help, input, out, table]

end Switch

end BenchCharts

/-!
The units that a latency is shown in. Latencies themselves are nanoseconds.
-/

namespace BenchCharts

inductive TimeUnit where
  | ns
  | us
  | ms
  | s
  deriving DecidableEq, Repr

namespace TimeUnit

def nanos : TimeUnit → Float
  | ns => 1.0
  | us => 1000.0
  | ms => 1000000.0
  | s => 1000000000.0

def ofNanos (unit : TimeUnit) (x : Float) : Float :=
  x / unit.nanos

def name : TimeUnit → String
  | ns => "ns"
  | us => "us"
  | ms => "ms"
  | s => "s"

def symbol : TimeUnit → String
  | ns => "ns"
  | us => "µs"
  | ms => "ms"
  | s => "s"

def all : List TimeUnit := [ns, us, ms, s]

/-- The unit of a name, letter for letter. -/
def ofName? (name : String) : Option TimeUnit :=
  all.find? (·.name == name)

/-- The unit of a name in any ASCII letter case. -/
def ofAnyCase? (name : List Char) : Option TimeUnit :=
  ofName? (String.ofList (name.map Char.toLower))

end TimeUnit

end BenchCharts

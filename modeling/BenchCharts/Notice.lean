/-!
Messages to the user, each with a sign of its kind.
-/

namespace BenchCharts

inductive Notice.Kind where
  | error
  | hint
  | warning
  | success
  deriving DecidableEq, Repr

structure Notice where
  kind : Notice.Kind
  text : String
  deriving DecidableEq, Repr

namespace Notice

def Kind.sign : Kind → String
  | error => "❌"
  | hint => "💡"
  | warning => "🟡"
  | success => "✅"

/-- The terminal codes that start and end the style of a kind. -/
def Kind.style : Kind → Nat × Nat
  | error => (31, 39)
  | hint => (2, 22)
  | warning => (33, 39)
  | success => (32, 39)

def styleCode (code : Nat) : String :=
  s!"\x1b[{code}m"

def styled (notice : Notice) : String :=
  let (first, last) := notice.kind.style
  s!"{notice.kind.sign} {styleCode first}{notice.text}{styleCode last}"

end Notice

end BenchCharts

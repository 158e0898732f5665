import BenchCharts.Fields

/-!
The values of a TOML document.
-/

namespace BenchCharts

inductive Toml where
  | string (s : String)
  | integer (n : Int)
  | float (x : Float)
  | boolean (b : Bool)
  /-- A date, a time or both, as it is written. -/
  | moment (text : String)
  | array (items : List Toml)
  | table (entries : List (String × Toml))
  deriving Inhabited

end BenchCharts

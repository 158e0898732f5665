import BenchCharts.Toml

/-!
Tables under construction. A table may be opened once by its header, and not at all after a dotted
key has led through it; no dotted key leads through a table that a header has opened, but it may go
through the last table of an array. Inline tables and plain arrays are closed.
-/

namespace BenchCharts.Toml

/-- Part of a document under construction. -/
inductive Node where
  | leaf (value : Toml)
  /-- A table. It is `implied` until a header opens it, and `dotted` if a dotted key led to it. -/
  | table (implied dotted : Bool) (entries : List (String × Node))
  /-- The tables of an array, the last one open. -/
  | tables (elements : List (List (String × Node)))

abbrev Entries := List (String × Node)

/-- Changes the entry under a key, or adds one. -/
def Entries.alter (key : String) (change : Option Node → Option Node) : Entries → Option Entries
  | [] => (change none).map fun node => [(key, node)]
  | (k, node) :: rest =>
    if k = key then (change (some node)).map fun node => (k, node) :: rest
    else (alter key change rest).map ((k, node) :: ·)

/-- Sets the value under a dotted key, which must be new. The key may not end right inside an array
of tables. -/
def Entries.set (entries : Entries) (value : Toml) : List String → Option Entries
  | [] => none
  | [key] => entries.alter key fun
    | none => some (.leaf value)
    | some _ => none
  | key :: next :: path => entries.alter key fun
    | none => (Entries.set [] value (next :: path)).map (.table true true)
    | some (.table true _ inner) => (Entries.set inner value (next :: path)).map (.table true true)
    | some (.tables elements) =>
      if path = [] then none
      else (Entries.set (elements.getLastD []) value (next :: path)).map fun last =>
        .tables (elements.dropLast ++ [last])
    | some _ => none

/-- Changes the table that a header path leads to; arrays lead to their last table. -/
def Entries.within (change : Entries → Option Entries) (entries : Entries) :
    List String → Option Entries
  | [] => change entries
  | key :: path => entries.alter key fun
    | none => (Entries.within change [] path).map (.table true false)
    | some (.table implied dotted inner) =>
      (Entries.within change inner path).map (.table implied dotted)
    | some (.tables elements) =>
      (Entries.within change (elements.getLastD []) path).map fun last =>
        .tables (elements.dropLast ++ [last])
    | some (.leaf _) => none

/-- Opens a table by its header. -/
def Entries.openTable (key : String) (entries : Entries) : Option Entries :=
  entries.alter key fun
    | none => some (.table false false [])
    | some (.table true false inner) => some (.table false false inner)
    | some _ => none

/-- Opens a further table of an array by its header. -/
def Entries.openElement (key : String) (entries : Entries) : Option Entries :=
  entries.alter key fun
    | none => some (.tables [[]])
    | some (.tables elements) => some (.tables (elements ++ [[]]))
    | some _ => none

mutual

def Node.finish : Node → Toml
  | .leaf value => value
  | .table _ _ entries => .table (finishEntries entries)
  | .tables elements => .array (finishElements elements)

def finishEntries : List (String × Node) → List (String × Toml)
  | [] => []
  | (key, node) :: rest => (key, node.finish) :: finishEntries rest

def finishElements : List (List (String × Node)) → List Toml
  | [] => []
  | entries :: rest => .table (finishEntries entries) :: finishElements rest

end

end BenchCharts.Toml

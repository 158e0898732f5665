import BenchCharts.Config
import BenchCharts.Toml.Reader

/-!
Reads a configuration from TOML. Whatever is not given keeps its standard value. A setting that does
not exist is refused at the top, and ignored in the theme and in a source.
-/

namespace BenchCharts

namespace Toml

/-- The members of a structured value: a table, or an array with the members in their order. A date
has no members of its own. -/
def members? (names : List String) : Toml → Option (Fields Toml)
  | .table entries => some entries
  | .array items => some (names.zip items)
  | .moment _ => some []
  | _ => none

def string? : Toml → Option String
  | .string s => some s
  | _ => none

def size? : Toml → Option Nat
  | .integer n => if 0 ≤ n ∧ n < 4294967296 then some n.toNat else none
  | _ => none

/-- A float, which may be written as an integer of 64 bits. -/
def number? : Toml → Option Float
  | .float x => some x
  | .integer n =>
    if -9223372036854775808 ≤ n ∧ n ≤ Decimal.maxCount then
      let x := Float.ofNat n.natAbs
      some (if n < 0 then -x else x)
    else none
  | _ => none

def color? : Toml → Option Color
  | .string s => (Color.ofString s).toOption
  | _ => none

def colors? : Toml → Option (List Color)
  | .array items => items.mapM color?
  | _ => none

def namedColors? : Toml → Option (Fields Color)
  | .table entries => entries.mapM fun (name, v) => (color? v).map ((name, ·))
  | _ => none

/-- A unit of time by its name, or by a table that holds nothing but the name. -/
def unit? : Toml → Option TimeUnit
  | .string s => TimeUnit.ofName? s
  | .table [(name, .table [])] => TimeUnit.ofName? name
  | .table [(name, .array [])] => TimeUnit.ofName? name
  | _ => none

/-- The value of a member, or the standard one if there is none. -/
def member? (members : Fields Toml) (name : String) (read : Toml → Option α) (standard : α) :
    Option α :=
  match members.get? name with
  | some v => read v
  | none => some standard

def themeMembers : List String :=
  ["background", "axes", "edge", "text", "title", "grid", "legend-edge", "reference",
    "reference-text", "group-colors", "source-colors", "source-accents", "palette"]

def theme? (v : Toml) : Option Theme := do
  let members ← v.members? themeMembers
  let standard := Theme.standard
  return {
    background := ← member? members "background" color? standard.background
    axes := ← member? members "axes" color? standard.axes
    edge := ← member? members "edge" color? standard.edge
    text := ← member? members "text" color? standard.text
    title := ← member? members "title" color? standard.title
    grid := ← member? members "grid" color? standard.grid
    legendEdge := ← member? members "legend-edge" color? standard.legendEdge
    reference := ← member? members "reference" color? standard.reference
    referenceText := ← member? members "reference-text" color? standard.referenceText
    groupColors := ← member? members "group-colors" namedColors? standard.groupColors
    sourceColors := ← member? members "source-colors" namedColors? standard.sourceColors
    sourceAccents := ← member? members "source-accents" namedColors? standard.sourceAccents
    palette := ← member? members "palette" colors? standard.palette }

def source? (v : Toml) : Option Source := do
  let members ← v.members? ["name", "slug", "dir"]
  return {
    name := ← (← members.get? "name").string?
    slug := ← (← members.get? "slug").string?
    folder := ← member? members "dir" (fun v => v.string?.map some) none }

def sources? : Toml → Option (List Source)
  | .array items => items.mapM source?
  | _ => none

end Toml

namespace Config

def settings : List String :=
  ["width", "height", "display-unit", "symlog-threshold", "theme", "sources"]

def ofTable? (entries : Fields Toml) : Option Config := do
  if entries.any fun (name, _) => !settings.contains name then none
  else return {
    width := ← Toml.member? entries "width" Toml.size? standard.width
    height := ← Toml.member? entries "height" Toml.size? standard.height
    displayUnit :=
      ← Toml.member? entries "display-unit" (fun v => v.unit?.map some) standard.displayUnit
    symlogThreshold :=
      ← Toml.member? entries "symlog-threshold" Toml.number? standard.symlogThreshold
    theme := ← Toml.member? entries "theme" Toml.theme? standard.theme
    sources := ← Toml.member? entries "sources" Toml.sources? standard.sources }

def ofText (s : List Char) : Except Flaw Config :=
  match (Toml.ofText? s).bind ofTable? with
  | none => .error .unreadable
  | some config =>
    match config.flaw? with
    | some flaw => .error flaw
    | none => .ok config

end Config

end BenchCharts

import BenchCharts.Path
import BenchCharts.Text.Case

/-!
Sources of result documents, such as runtimes.
-/

namespace BenchCharts

structure Source where
  /-- The name in titles and legends. -/
  name : String
  /-- What the names of its files start with. -/
  slug : String
  /-- The folder below the results, if it is not named like the slug. -/
  folder : Option String
  deriving DecidableEq, Repr

namespace Source

def dir (source : Source) : String :=
  source.folder.getD source.slug

def fileName (source : Source) (kind : String) : String :=
  s!"{source.slug}_{kind}.json"

/-- Where a result file may lie, in the order of search. -/
def candidates (source : Source) (input : Path) (file : String) : List Path :=
  let folder := Path.ofString source.dir
  let file := Path.ofString file
  [input / .ofString "ms" / folder / file, input / .ofString "json" / folder / file,
    input / folder / file, input / file]

/-- Whether a lower-case stem starts with the slug and an underscore. -/
def ownsStem (source : Source) (stem : List Char) : Bool :=
  (Text.lower source.slug.toList ++ ['_']).isPrefixOf stem

/-- A stem in title case, with its underscores read as blanks. -/
def stemTitle (stem : List Char) : String :=
  String.ofList (Text.titleCase (stem.map fun c => if c = '_' then ' ' else c))

/-- The title of a result file: the name of the source that it belongs to, or else a title made of
its name. -/
def titleOf (sources : List Source) (path : Path) : String :=
  let stem := Text.lower path.stem
  match sources.find? (·.ownsStem stem) with
  | some source => source.name
  | none => stemTitle stem

end Source

end BenchCharts

import BenchCharts.Text.Search

/-!
Paths of files, as they are written. Slashes part the pieces of a path; an empty piece and a `.` say
nothing, except for a `.` in front.
-/

namespace BenchCharts

structure Path where
  chars : List Char
  deriving DecidableEq, Repr, Inhabited

namespace Path

def ofString (s : String) : Path := ⟨s.toList⟩

def text (p : Path) : String := String.ofList p.chars

inductive Part where
  | root
  /-- A `.` in front of a path. -/
  | here
  | up
  | name (s : List Char)
  deriving DecidableEq, Repr

def splitSlashes : List Char → List (List Char)
  | [] => [[]]
  | c :: r =>
    if c = '/' then [] :: splitSlashes r
    else match splitSlashes r with
      | [] => [[c]]
      | piece :: pieces => (c :: piece) :: pieces

def joinSlashes (pieces : List (List Char)) : List Char :=
  ['/'].intercalate pieces

def isAbsolute (p : Path) : Bool :=
  p.chars.head? == some '/'

/-- Whether the path starts with a `.` of its own. -/
def startsHere (p : Path) : Bool :=
  match p.chars with
  | ['.'] => true
  | '.' :: '/' :: _ => true
  | _ => false

/-- The slash or the `.` in front. -/
def lead (p : Path) : List Char :=
  if p.isAbsolute ∨ p.startsHere then p.chars.take 1 else []

def pieces (p : Path) : List (List Char) :=
  splitSlashes (p.chars.drop p.lead.length)

def isSilent (piece : List Char) : Bool :=
  piece == [] || piece == ['.']

def partOf? (piece : List Char) : Option Part :=
  if isSilent piece then none
  else if piece = ['.', '.'] then some .up
  else some (.name piece)

def leadPart? (p : Path) : Option Part :=
  if p.isAbsolute then some .root
  else if p.startsHere then some .here
  else none

def parts (p : Path) : List Part :=
  p.leadPart?.toList ++ p.pieces.filterMap partOf?

/-- The pieces up to the last one that says something. -/
def trimPieces (pieces : List (List Char)) : List (List Char) :=
  (pieces.reverse.dropWhile isSilent).reverse

def parent? (p : Path) : Option Path :=
  match trimPieces p.pieces with
  | [] => if p.startsHere then some ⟨[]⟩ else none
  | pieces => some ⟨p.lead ++ joinSlashes (trimPieces pieces.dropLast)⟩

def fileName? (p : Path) : Option (List Char) :=
  match p.parts.getLast? with
  | some (.name s) => some s
  | _ => none

/-- Splits a name at its last dot, unless the name starts with it. -/
def splitName (name : List Char) : List Char × Option (List Char) :=
  let after := (name.reverse.takeWhile (· != '.')).reverse
  let before := name.take (name.length - after.length - 1)
  if before = [] then (name, none) else (before, some after)

def stem (p : Path) : List Char :=
  (p.fileName?.map fun name => (splitName name).1).getD []

def extension? (p : Path) : Option (List Char) :=
  p.fileName?.bind fun name => (splitName name).2

def isPng (p : Path) : Bool :=
  p.extension?.map (·.map Char.toLower) == some "png".toList

/-- A path seen from a folder. -/
def join (p q : Path) : Path :=
  if q.isAbsolute then q
  else if p.chars = [] ∨ p.chars.getLast? = some '/' then ⟨p.chars ++ q.chars⟩
  else ⟨p.chars ++ '/' :: q.chars⟩

instance : Div Path := ⟨join⟩

/-- Drops pieces up to and with the `n`-th one that says something, and all that say nothing behind
it. -/
def dropPieces : Nat → List (List Char) → List (List Char)
  | 0, pieces => pieces.dropWhile isSilent
  | _ + 1, [] => []
  | n + 1, piece :: pieces =>
    if isSilent piece then dropPieces (n + 1) pieces else dropPieces n pieces

/-- The path as seen from a folder that it lies in. -/
def within? (p folder : Path) : Option Path :=
  if folder.parts.isPrefixOf p.parts then
    let count := (folder.pieces.filterMap partOf?).length
    some ⟨joinSlashes (trimPieces (dropPieces count p.pieces))⟩
  else none

/-- The path as it is shown, with `~` for the home folder. -/
def shown (home : Option Path) (p : Path) : String :=
  match home.bind p.within? with
  | some ⟨[]⟩ => "~"
  | some rest => (Path.ofString "~" / rest).text
  | none => p.text

/-- Where the chart of an input goes: to the path of a picture, or else into a folder under the
name of the input. -/
def chartPath (input out : Path) : Path :=
  if out.isPng then out else out / ⟨input.stem ++ ".png".toList⟩

end Path

end BenchCharts

import BenchCharts.Path
import BenchCharts.Raster

/-!
Files and folders, and the ways in which reading and writing them fails.
-/

namespace BenchCharts

inductive Content where
  | text (s : String)
  | picture (raster : Raster)
  /-- Bytes that are no text. -/
  | bytes (data : ByteArray)

def Content.ofBytes (data : ByteArray) : Content :=
  match String.fromUTF8? data with
  | some s => .text s
  | none => .bytes data

inductive Node where
  | folder
  | file (content : Content)

inductive FileError where
  | notFound
  | taken
  | notFolder
  | isFolder
  | notText
  | cutShort
  | denied
  | other (text : String)
  deriving DecidableEq, Repr

def FileError.message : FileError → String
  | notFound => "No such file or directory (os error 2)"
  | taken => "File exists (os error 17)"
  | notFolder => "Not a directory (os error 20)"
  | isFolder => "Is a directory (os error 21)"
  | notText => "stream did not contain valid UTF-8"
  | cutShort => "unexpected end of file"
  | denied => "Permission denied (os error 13)"
  | other text => text

/-- Files and folders by the names that lead to them from the root. -/
structure FileTree where
  /-- The folder that relative paths start from. -/
  current : List String
  nodes : List (List String × Node)

namespace FileTree

/-- A tree with nothing but the current folder and those above it. -/
def empty (current : List String) : FileTree :=
  ⟨current, (List.range (current.length + 1)).map fun n => (current.take n, .folder)⟩

def node? (tree : FileTree) (names : List String) : Option Node :=
  (tree.nodes.find? (·.1 == names)).map (·.2)

/-- Puts a node in place of the one under the same names. -/
def put (tree : FileTree) (names : List String) (node : Node) : FileTree :=
  { tree with nodes := (names, node) :: tree.nodes.filter (·.1 != names) }

def requireFolder (tree : FileTree) (names : List String) : Except FileError Unit :=
  match tree.node? names with
  | some .folder => .ok ()
  | some (.file _) => .error .notFolder
  | none => .error .notFound

/-- Takes one part of a path from a place in the tree. -/
def walk (tree : FileTree) (names : List String) : Path.Part → Except FileError (List String)
  | .root => .ok []
  | .here => .ok names
  | .up => do
    tree.requireFolder names
    return names.dropLast
  | .name s => do
    tree.requireFolder names
    return names ++ [String.ofList s]

/-- The names that a path leads to; there need not be anything under them. -/
def namesOf (tree : FileTree) (path : Path) : Except FileError (List String) :=
  if path.chars = [] then .error .notFound
  else path.parts.foldlM tree.walk tree.current

/-- Whether a path can only be that of a folder. -/
def demandsFolder (path : Path) : Bool :=
  path.pieces.getLast?.any Path.isSilent

def find (tree : FileTree) (path : Path) : Except FileError Node := do
  let names ← tree.namesOf path
  match tree.node? names with
  | none => .error .notFound
  | some .folder => return .folder
  | some (.file content) =>
    if demandsFolder path then .error .notFolder else return .file content

def contains (tree : FileTree) (path : Path) : Bool :=
  (tree.find path).isOk

def isFile (tree : FileTree) (path : Path) : Bool :=
  match tree.find path with
  | .ok (.file _) => true
  | _ => false

def isFolder (tree : FileTree) (path : Path) : Bool :=
  match tree.find path with
  | .ok .folder => true
  | _ => false

def readText (tree : FileTree) (path : Path) : Except FileError String := do
  match ← tree.find path with
  | .folder => .error .isFolder
  | .file (.text s) => return s
  | .file _ => .error .notText

def nameIn? (folder : List String) (names : List String) : Option String :=
  if names.dropLast = folder then names.getLast? else none

/-- The names in a folder in ascending order. -/
def list (tree : FileTree) (path : Path) : Except FileError (List String) := do
  let names ← tree.namesOf path
  let _ ← tree.find path
  tree.requireFolder names
  return (tree.nodes.filterMap fun n => nameIn? names n.1).mergeSort

def makeFolder (tree : FileTree) (path : Path) : Except FileError FileTree := do
  let names ← tree.namesOf path
  match tree.node? names with
  | some _ => .error .taken
  | none => return tree.put names .folder

/-- Makes a folder and those above it, at most `n` of them. -/
def makeFoldersUpTo : Nat → FileTree → Path → Except FileError FileTree
  | 0, _, _ => .error .notFound
  | n + 1, tree, path =>
    match tree.makeFolder path, path.parent? with
    | .ok made, _ => .ok made
    | .error .notFound, some parent => do
      let tree ← makeFoldersUpTo n tree parent
      match tree.makeFolder path with
      | .ok made => return made
      | .error e => if tree.isFolder path then return tree else .error e
    | .error e, _ =>
      if path.chars = [] ∨ tree.isFolder path then .ok tree else .error e

/-- Makes a folder and those above it, as far as they are not there. -/
def makeFolders (tree : FileTree) (path : Path) : Except FileError FileTree :=
  makeFoldersUpTo (path.pieces.length + 1) tree path

/-- Writes a file into a folder that is there. -/
def write (tree : FileTree) (path : Path) (content : Content) : Except FileError FileTree := do
  let names ← tree.namesOf path
  match tree.node? names with
  | some .folder => .error .isFolder
  | some (.file _) => if demandsFolder path then .error .notFolder
  | none => if demandsFolder path then .error .isFolder
  tree.requireFolder names.dropLast
  return tree.put names (.file content)

/-- The files with the names that lead to them. -/
def files (tree : FileTree) : List (List String × Content) :=
  tree.nodes.filterMap fun
    | (names, .file content) => some (names, content)
    | (_, .folder) => none

end FileTree

end BenchCharts

import BenchCharts.Toml.Quoted
import BenchCharts.Toml.Scalar
import BenchCharts.Toml.Tree

/-!
Reads a TOML document into its table.
-/

namespace BenchCharts.Toml

def isInlineBlank (c : Char) : Bool := c == ' ' || c == '\t'

def skipInline (s : List Char) : List Char :=
  s.dropWhile isInlineBlank

def skipComment? : List Char → Option (List Char)
  | '#' :: r =>
    let body := r.takeWhile (· != '\n')
    let text := if body.getLast? = some '\r' ∧ r.contains '\n' then body.dropLast else body
    if text.any isForbidden then none else some (r.drop text.length)
  | r => some r

/-- Skips blanks, comments and ends of lines, at most `n` of them. -/
def skipLines? : Nat → List Char → Option (List Char)
  | 0, s => some s
  | n + 1, s => do
    let r ← skipComment? (skipInline s)
    match lineEnd? r with
    | some r => skipLines? n r
    | none => return r

def skipAll? (s : List Char) : Option (List Char) :=
  skipLines? (s.length + 1) s

def isBare (c : Char) : Bool := c.isAlphanum || c == '_' || c == '-'

def keyPart? (s : List Char) : Option (String × List Char) :=
  let bare := s.takeWhile isBare
  if bare = [] then (quotedKey? s).map fun (cs, r) => (String.ofList cs, r)
  else some (String.ofList bare, s.drop bare.length)

/-- How many parts a key may have, and how deep arrays and inline tables may lie in one another. -/
def maxDepth : Nat := 80

/-- Reads a dotted key of at most `n` parts. -/
def keyOf? : Nat → List Char → Option (List String × List Char)
  | 0, _ => none
  | n + 1, s => do
    let (part, r) ← keyPart? (skipInline s)
    match skipInline r with
    | '.' :: r =>
      let (parts, r) ← keyOf? n r
      return (part :: parts, r)
    | r => return ([part], r)

def key? (s : List Char) : Option (List String × List Char) :=
  keyOf? maxDepth s

/-- Characters of a value without quotes. -/
def isPlain (c : Char) : Bool :=
  c.isAlphanum || c == '_' || c == '-' || c == '+' || c == '.' || c == ':'

/-- The letters of a value without quotes. A date may be followed by a blank and a time. -/
def takePlain (s : List Char) : List Char × List Char :=
  let first := s.takeWhile isPlain
  let rest := s.drop first.length
  match date? first, rest with
  | some [], ' ' :: c :: r =>
    if c.isDigit then
      let second := (c :: r).takeWhile isPlain
      (first ++ ' ' :: second, (c :: r).drop second.length)
    else (first, rest)
  | _, _ => (first, rest)

mutual

/-- Reads a value that has room for `depth` layers of arrays and inline tables. -/
def value? : Nat → Nat → List Char → Option (Toml × List Char)
  | 0, _, _ => none
  | n + 1, depth, s =>
    match s with
    | '[' :: r => do
      let (items, r) ← if depth = 0 then none else items? n (depth - 1) r
      return (array items, r)
    | '{' :: r => do
      let (entries, r) ← if depth = 0 then none else inlineEntries? n (depth - 1) [] r
      return (table (finishEntries entries), r)
    | c :: r =>
      if c = '"' ∨ c = '\'' then
        (quoted? (c :: r)).map fun (cs, r) => (string (String.ofList cs), r)
      else
        let (plain, rest) := takePlain (c :: r)
        (scalar? plain).map (·, rest)
    | [] => none

/-- Reads the rest of an array, where a value or the closing bracket may stand. -/
def items? : Nat → Nat → List Char → Option (List Toml × List Char)
  | 0, _, _ => none
  | n + 1, depth, s => do
    match ← skipAll? s with
    | ']' :: r => return ([], r)
    | r =>
      let (v, r) ← value? n depth r
      match ← skipAll? r with
      | ',' :: r =>
        let (vs, r) ← items? n depth r
        return (v :: vs, r)
      | ']' :: r => return ([v], r)
      | _ => none

/-- Reads the rest of an inline table, where a key or the closing brace may stand. Lines may end
anywhere but inside a key. -/
def inlineEntries? : Nat → Nat → Entries → List Char → Option (Entries × List Char)
  | 0, _, _, _ => none
  | n + 1, depth, entries, s => do
    match ← skipAll? s with
    | '}' :: r => return (entries, r)
    | r =>
      let (path, r) ← key? r
      match ← skipAll? r with
      | '=' :: r =>
        let (v, r) ← value? n depth (← skipAll? r)
        let entries ← entries.set v path
        match ← skipAll? r with
        | ',' :: r => inlineEntries? n depth entries r
        | '}' :: r => return (entries, r)
        | _ => none
      | _ => none

end

def endLine? (s : List Char) : Option (List Char) := do
  match ← skipComment? (skipInline s) with
  | [] => return []
  | r => lineEnd? r

/-- Reads at most `n` statements, with the header path of the open table. -/
def statements? : Nat → Entries → List String → List Char → Option Entries
  | 0, _, _, _ => none
  | n + 1, entries, path, s => do
    match ← skipAll? s with
    | [] => return entries
    | '[' :: '[' :: r =>
      let (header, r) ← key? r
      match r with
      | ']' :: ']' :: r =>
        let entries ← entries.within (Entries.openElement (header.getLastD "")) header.dropLast
        statements? n entries header (← endLine? r)
      | _ => none
    | '[' :: r =>
      let (header, r) ← key? r
      match r with
      | ']' :: r =>
        let entries ← entries.within (Entries.openTable (header.getLastD "")) header.dropLast
        statements? n entries header (← endLine? r)
      | _ => none
    | r =>
      let (keys, r) ← key? r
      match r with
      | '=' :: r =>
        let (v, r) ← value? (r.length + 1) maxDepth (skipInline r)
        let entries ← entries.within (·.set v keys) path
        statements? n entries path (← endLine? r)
      | _ => none

/-- The text without a byte order mark. -/
def dropMark : List Char → List Char
  | c :: r => if c.toNat = 0xFEFF then r else c :: r
  | [] => []

def ofText? (s : List Char) : Option (Fields Toml) :=
  let s := dropMark s
  (statements? (s.length + 1) [] [] s).map finishEntries

end BenchCharts.Toml

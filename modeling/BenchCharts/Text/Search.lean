/-!
The leftmost place in a text where a form matches.
-/

namespace BenchCharts.Text

/-- A match: the text in front of it, what was read, and the text behind it. -/
structure Match (α : Type) where
  before : List Char
  value : α
  after : List Char
  deriving DecidableEq

/-- Tries `form` at every place from the left, the end of the text included; the first match
decides. A form answers with what it read and the text that it left. -/
def leftmost? (form : List Char → Option (α × List Char)) : List Char → Option (Match α)
  | [] => (form []).map fun (a, rest) => ⟨[], a, rest⟩
  | c :: s =>
    match form (c :: s) with
    | some (a, rest) => some ⟨[], a, rest⟩
    | none => (leftmost? form s).map fun m => { m with before := c :: m.before }

def skip? (word : List Char) (s : List Char) : Option (List Char) :=
  if word.isPrefixOf s then some (s.drop word.length) else none

def occursIn (word : List Char) : List Char → Bool
  | [] => word.isEmpty
  | c :: s => word.isPrefixOf (c :: s) || occursIn word s

@[simp] theorem skip?_append (word s : List Char) : skip? word (word ++ s) = some s := by
  simp [skip?]

end BenchCharts.Text

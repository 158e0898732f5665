/-!
Values under names, in the order in which the names first came up.
-/

namespace BenchCharts

/-- Name and value pairs; a well-formed list holds each name once. -/
abbrev Fields (α : Type) := List (String × α)

namespace Fields

def get? (fields : Fields α) (name : String) : Option α :=
  (fields.find? (·.1 == name)).map (·.2)

/-- Gives a name a value. A name that is there already keeps its place. -/
def put (fields : Fields α) (name : String) (value : α) : Fields α :=
  match fields with
  | [] => [(name, value)]
  | (n, v) :: rest => if n = name then (name, value) :: rest else (n, v) :: put rest name value

/-- Of several values under one name the last one counts, at the place of the first. -/
def ofPairs (pairs : List (String × α)) : Fields α :=
  pairs.foldl (fun fields (name, value) => fields.put name value) []

@[simp] theorem get?_nil (name : String) : get? ([] : Fields α) name = none := rfl

theorem get?_cons (n : String) (v : α) (rest : Fields α) (name : String) :
    get? ((n, v) :: rest) name = if n = name then some v else get? rest name := by
  by_cases h : n = name <;> simp [get?, h]

theorem get?_put (fields : Fields α) (name other : String) (value : α) :
    (fields.put name value).get? other =
      if name = other then some value else fields.get? other := by
  induction fields with
  | nil => simp [put, get?_cons]
  | cons field rest ih =>
    obtain ⟨n, v⟩ := field
    by_cases h : n = name
    · subst h
      simp only [put, if_pos, get?_cons]
      split <;> rfl
    · simp only [put, if_neg h, get?_cons, ih]
      by_cases hn : n = other
      · simp [hn, show name ≠ other from fun he => h (hn.trans he.symm)]
      · simp [hn]

end Fields

end BenchCharts

import BenchCharts.Pattern

/-!
The notation of patterns: literals, `.`, `^`, `$`, groups, alternatives, the repetitions `*`, `+`
and `?`, classes in brackets and the escapes of blanks, digits, word characters and word
boundaries.
-/

namespace BenchCharts.Pattern

/-- The class behind a backslash, if the letter names one. -/
def classOfLetter? (c : Char) : Option CharSet :=
  match c with
  | 's' => CharSet.blank
  | 'S' => CharSet.complement .blank
  | 'd' => CharSet.decimal
  | 'D' => CharSet.complement .decimal
  | 'w' => CharSet.word
  | 'W' => CharSet.complement .word
  | 'n' => CharSet.char '\n'
  | 't' => CharSet.char '\t'
  | 'r' => CharSet.char '\r'
  | c => if c.isAlphanum ∨ 128 ≤ c.toNat then none else CharSet.char c

/-- Reads one member of a class in brackets. -/
def member? : List Char → Option (CharSet × List Char)
  | [] => none
  | '\\' :: c :: r => (classOfLetter? c).map (·, r)
  | '\\' :: [] => none
  | '[' :: _ => none
  | a :: '-' :: b :: r =>
    if b = ']' then Option.some (.char a, '-' :: b :: r)
    else if b = '\\' then none
    else if a ≤ b then Option.some (.range a b, r)
    else none
  | a :: r => Option.some (.char a, r)

/-- Reads at most `n` further members of a class, up to its closing bracket. -/
def members? (set : CharSet) : Nat → List Char → Option (CharSet × List Char)
  | 0, _ => none
  | _ + 1, ']' :: r => Option.some (set, r)
  | n + 1, s => do
    let (next, r) ← member? s
    members? (set.union next) n r

/-- Reads a class whose opening bracket was met. A closing bracket in first place is a member. -/
def class? (s : List Char) : Option (CharSet × List Char) := do
  let (negated, s) := match s with
    | '^' :: r => (true, r)
    | r => (false, r)
  let (first, r) ← match s with
    | ']' :: r => Option.some (CharSet.char ']', r)
    | r => member? r
  let (set, r) ← members? first s.length r
  return (if negated then .complement set else set, r)

/-- Reads the repetitions behind a part; a question mark behind one only makes it reluctant. -/
def repetitions (p : Pattern) : List Char → Pattern × List Char
  | '*' :: '?' :: r => repetitions (many p) r
  | '+' :: '?' :: r => repetitions (some p) r
  | '?' :: '?' :: r => repetitions (optional p) r
  | '*' :: r => repetitions (many p) r
  | '+' :: r => repetitions (some p) r
  | '?' :: r => repetitions (optional p) r
  | r => (p, r)

mutual

def alternatives? : Nat → List Char → Option (Pattern × List Char)
  | 0, _ => none
  | n + 1, s => do
    let (p, r) ← sequence? n s
    match r with
    | '|' :: r =>
      let (q, r) ← alternatives? n r
      return (either p q, r)
    | r => return (p, r)

/-- Reads parts up to the end, a bar or a closing parenthesis. -/
def sequence? : Nat → List Char → Option (Pattern × List Char)
  | 0, _ => none
  | _ + 1, [] => Option.some (empty, [])
  | _ + 1, '|' :: r => Option.some (empty, '|' :: r)
  | _ + 1, ')' :: r => Option.some (empty, ')' :: r)
  | n + 1, s => do
    let (p, r) ← part? n s
    let (p, r) := repetitions p r
    let (q, r) ← sequence? n r
    return (seq p q, r)

def part? : Nat → List Char → Option (Pattern × List Char)
  | 0, _ => none
  | _ + 1, [] => none
  | n + 1, c :: r =>
    match c with
    | '(' => do
      let body ← match r with
        | '?' :: ':' :: r => Option.some r
        | '?' :: _ => none
        | r => Option.some r
      let (p, r) ← alternatives? n body
      match r with
      | ')' :: r => return (p, r)
      | _ => none
    | '[' => (class? r).map fun (set, r) => (one set, r)
    | '^' => Option.some (start, r)
    | '$' => Option.some (stop, r)
    | '.' => Option.some (one .any, r)
    | '*' => none
    | '+' => none
    | '?' => none
    | '{' => none
    | '\\' =>
      match r with
      | 'b' :: r => Option.some (boundary, r)
      | 'B' :: r => Option.some (noBoundary, r)
      | d :: r => (classOfLetter? d).map fun set => (one set, r)
      | [] => none
    | c => Option.some (one (.char c), r)

end

/-- Reads a pattern; `none` if the text is not one. -/
def ofText? (s : List Char) : Option Pattern := do
  let (p, r) ← alternatives? (4 * s.length + 4) s
  if r = [] then return p else none

end BenchCharts.Pattern

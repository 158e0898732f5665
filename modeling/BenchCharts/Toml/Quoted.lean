import BenchCharts.Json.Reader
import BenchCharts.Toml

/-!
The quoted strings of TOML. Each reader answers with the characters of the string and with the text
behind its closing quote.
-/

namespace BenchCharts.Toml

/-- Control characters other than the tab may not stand in a document. -/
def isForbidden (c : Char) : Bool :=
  (c.toNat < 32 && c != '\t') || c.toNat == 127

/-- The character of a hexadecimal escape of `width` digits. -/
def hexEscape? (width : Nat) (s : List Char) : Option (Char × List Char) := do
  let n ← Json.hexNumber? (s.take width)
  if (s.take width).length = width ∧ n.isValidChar then return (Char.ofNat n, s.drop width)
  else none

def escape? : List Char → Option (Char × List Char)
  | [] => none
  | c :: r =>
    match c with
    | 'b' => some (Char.ofNat 8, r)
    | 't' => some ('\t', r)
    | 'n' => some ('\n', r)
    | 'f' => some (Char.ofNat 12, r)
    | 'r' => some ('\r', r)
    | 'e' => some (Char.ofNat 27, r)
    | '"' => some ('"', r)
    | '\\' => some ('\\', r)
    | 'x' => hexEscape? 2 r
    | 'u' => hexEscape? 4 r
    | 'U' => hexEscape? 8 r
    | _ => none

/-- Reads a basic string on one line, of at most `n` characters. -/
def basic? : Nat → List Char → Option (List Char × List Char)
  | 0, _ => none
  | _ + 1, [] => none
  | n + 1, c :: r =>
    if c = '"' then some ([], r)
    else if c = '\\' then do
      let (x, r) ← escape? r
      let (xs, r) ← basic? n r
      return (x :: xs, r)
    else if isForbidden c then none
    else do
      let (xs, r) ← basic? n r
      return (c :: xs, r)

def literal? : List Char → Option (List Char × List Char)
  | [] => none
  | c :: r =>
    if c = '\'' then some ([], r)
    else if isForbidden c then none
    else (literal? r).map fun (xs, r) => (c :: xs, r)

/-- Skips a line feed, with or without a carriage return in front of it. -/
def lineEnd? : List Char → Option (List Char)
  | '\n' :: r => some r
  | '\r' :: '\n' :: r => some r
  | _ => none

/-- Skips blanks and ends of lines after a backslash that ends a line. -/
def skipFold : Nat → List Char → List Char
  | 0, s => s
  | n + 1, s =>
    match lineEnd? s with
    | some r => skipFold n r
    | none => match s with
      | ' ' :: r => skipFold n r
      | '\t' :: r => skipFold n r
      | s => s

/-- Whether a backslash with this text behind it ends a line. -/
def foldsLine (s : List Char) : Bool :=
  (lineEnd? (s.dropWhile fun c => c == ' ' || c == '\t')).isSome

/-- Three quotes close a string; up to two in front of them belong to it. -/
def close? (quote : Char) (s : List Char) : Option (List Char × List Char) :=
  let n := (s.takeWhile (· == quote)).length
  if n < 3 then none else some (List.replicate (min n 5 - 3) quote, s.drop (min n 5))

/-- Reads a string of several lines, of at most `n` characters. Ends of lines stay as they are
written; only in a basic string a backslash has a meaning. -/
def lines? (quote : Char) (basic : Bool) : Nat → List Char → Option (List Char × List Char)
  | 0, _ => none
  | _ + 1, [] => none
  | n + 1, c :: r =>
    match close? quote (c :: r) with
    | some found => some found
    | none =>
      if basic ∧ c = '\\' then
        if foldsLine r then lines? quote basic n (skipFold (r.length + 1) r)
        else do
          let (x, r) ← escape? r
          let (xs, r) ← lines? quote basic n r
          return (x :: xs, r)
      else if isForbidden c ∧ (lineEnd? (c :: r)).isNone then none
      else (lines? quote basic n r).map fun (xs, r) => (c :: xs, r)

/-- A line end right behind the opening quotes does not belong to the string. -/
def skipFirstLineEnd (s : List Char) : List Char :=
  (lineEnd? s).getD s

def quoted? (s : List Char) : Option (List Char × List Char) :=
  match s with
  | '"' :: '"' :: '"' :: r => lines? '"' true (r.length + 1) (skipFirstLineEnd r)
  | '\'' :: '\'' :: '\'' :: r => lines? '\'' false (r.length + 1) (skipFirstLineEnd r)
  | '"' :: r => basic? (r.length + 1) r
  | '\'' :: r => literal? r
  | _ => none

/-- Reads a string that may serve as a key. -/
def quotedKey? (s : List Char) : Option (List Char × List Char) :=
  match s with
  | '"' :: r => basic? (r.length + 1) r
  | '\'' :: r => literal? r
  | _ => none

end BenchCharts.Toml

import BenchCharts.Json.Number

/-!
Reads one JSON value at the head of a text; whatever follows it is left alone. Containers may be
nested 127 deep. A text may hold several values, one behind the other.
-/

namespace BenchCharts.Json

def isSpace (c : Char) : Bool :=
  c == ' ' || c == '\t' || c == '\n' || c == '\r'

def skipSpace (s : List Char) : List Char :=
  s.dropWhile isSpace

/-- Reads the rest of a word whose first letter was met. -/
def readWord (word : List Char) (v : Json) : Reader Json := fun s =>
  match word, s with
  | [], s => .ok (v, s)
  | _ :: _, [] => failHere .endInValue []
  | w :: ws, c :: r => if c = w then readWord ws v r else failNext .noIdentifier (c :: r)

def hexValue? (c : Char) : Option Nat :=
  if c.isDigit then some (c.toNat - '0'.toNat)
  else if 'a' ≤ c ∧ c ≤ 'f' then some (c.toNat - 'a'.toNat + 10)
  else if 'A' ≤ c ∧ c ≤ 'F' then some (c.toNat - 'A'.toNat + 10)
  else none

def hexNumber? (ds : List Char) : Option Nat :=
  ds.foldl (fun n d => do return 16 * (← n) + (← hexValue? d)) (some 0)

def readHex : Reader Nat := fun s =>
  match s with
  | a :: b :: c :: d :: r =>
    match hexNumber? [a, b, c, d] with
    | some n => .ok (n, r)
    | none => .error ⟨.invalidEscape, s, 4⟩
  | _ =>
    if (utf8 s).length < 4 then failHere .endInString []
    else .error ⟨.invalidEscape, s, 4⟩

def isTrailing (n : Nat) : Bool := 0xDC00 ≤ n && n ≤ 0xDFFF

def isLeading (n : Nat) : Bool := 0xD800 ≤ n && n ≤ 0xDBFF

/-- Reads one character of an escape, which has to be `expected`. -/
def readEscapePart (expected : Char) : Reader Unit
  | [] => failHere .endInString []
  | c :: r => if c = expected then .ok ((), r) else failNext .unpairedSurrogate (c :: r)

/-- Reads what follows `\u`. A leading surrogate has to be followed by the escape of a trailing
one. -/
def readUnicode : Reader Char := fun s => do
  let (n, r) ← readHex s
  if isTrailing n then failHere .loneSurrogate r
  else if isLeading n then
    let ((), r) ← readEscapePart '\\' r
    let ((), r) ← readEscapePart 'u' r
    let (m, r) ← readHex r
    if isTrailing m then
      .ok (Char.ofNat (0x10000 + (n - 0xD800) * 0x400 + (m - 0xDC00)), r)
    else failHere .loneSurrogate r
  else .ok (Char.ofNat n, r)

def readEscape : Reader Char
  | [] => failHere .endInString []
  | c :: r =>
    if c = '"' ∨ c = '\\' ∨ c = '/' then .ok (c, r)
    else if c = 'b' then .ok (Char.ofNat 8, r)
    else if c = 'f' then .ok (Char.ofNat 12, r)
    else if c = 'n' then .ok ('\n', r)
    else if c = 'r' then .ok ('\r', r)
    else if c = 't' then .ok ('\t', r)
    else if c = 'u' then readUnicode r
    else failNext .invalidEscape (c :: r)

/-- Reads the characters up to the closing quote, at most `n` of them. -/
def readCharacters : Nat → Reader (List Char)
  | _, [] => failHere .endInString []
  | 0, s => failHere .endInString s
  | n + 1, c :: r =>
    if c = '"' then .ok ([], r)
    else if c = '\\' then do
      let (x, r) ← readEscape r
      let (xs, r) ← readCharacters n r
      return (x :: xs, r)
    else if c.toNat < 32 then failNext .controlCharacter (c :: r)
    else do
      let (xs, r) ← readCharacters n r
      return (c :: xs, r)

/-- Reads a string whose opening quote was met. -/
def readString (n : Nat) : Reader String := fun s => do
  let (cs, r) ← readCharacters n s
  return (String.ofList cs, r)

/-- Reads what follows an item of a list, with at most `n` items more. -/
def readMoreItems (item : Reader Json) : Nat → Reader (List Json)
  | 0, s => failHere .endInList s
  | n + 1, s =>
    match skipSpace s with
    | [] => failNext .endInList []
    | ']' :: r => .ok ([], r)
    | ',' :: r =>
      match skipSpace r with
      | [] => failNext .endInValue []
      | ']' :: r => failNext .trailingComma (']' :: r)
      | c :: r => do
        let (v, r) ← item (c :: r)
        let (vs, r) ← readMoreItems item n r
        return (v :: vs, r)
    | c :: r => failNext .noCommaInList (c :: r)

/-- Reads a list whose opening bracket was met. -/
def readItems (item : Reader Json) (n : Nat) : Reader (List Json) := fun s =>
  match skipSpace s with
  | [] => failNext .endInList []
  | ']' :: r => .ok ([], r)
  | c :: r => do
    let (v, r) ← item (c :: r)
    let (vs, r) ← readMoreItems item n r
    return (v :: vs, r)

def readMember (item : Reader Json) : Reader Json := fun s =>
  match skipSpace s with
  | [] => failNext .endInObject []
  | ':' :: r => item r
  | c :: r => failNext .noColon (c :: r)

/-- Reads what follows a member of an object, with at most `n` members more. -/
def readMoreMembers (item : Reader Json) : Nat → Reader (List (String × Json))
  | 0, s => failHere .endInObject s
  | n + 1, s =>
    match skipSpace s with
    | [] => failNext .endInObject []
    | '}' :: r => .ok ([], r)
    | ',' :: r =>
      match skipSpace r with
      | [] => failNext .endInValue []
      | '}' :: r => failNext .trailingComma ('}' :: r)
      | '"' :: r => do
        let (k, r) ← readString (n + 1) r
        let (v, r) ← readMember item r
        let (fs, r) ← readMoreMembers item n r
        return ((k, v) :: fs, r)
      | c :: r => failNext .keyNotString (c :: r)
    | c :: r => failNext .noCommaInObject (c :: r)

/-- Reads an object whose opening brace was met. -/
def readMembers (item : Reader Json) (n : Nat) : Reader (List (String × Json)) := fun s =>
  match skipSpace s with
  | [] => failNext .endInObject []
  | '}' :: r => .ok ([], r)
  | '"' :: r => do
    let (k, r) ← readString n r
    let (v, r) ← readMember item r
    let (fs, r) ← readMoreMembers item n r
    return ((k, v) :: fs, r)
  | c :: r => failNext .keyNotString (c :: r)

/-- Reads a value with containers nested at most `depth` deep, in a text of at most `n`
characters. -/
def readValue (n : Nat) (depth : Nat) : Reader Json := fun s =>
  match skipSpace s with
  | [] => failNext .endInValue []
  | '[' :: r =>
    match depth with
    | 0 => failNext .tooDeep ('[' :: r)
    | d + 1 => do
      let (items, r) ← readItems (readValue n d) n r
      return (.array items, r)
  | '{' :: r =>
    match depth with
    | 0 => failNext .tooDeep ('{' :: r)
    | d + 1 => do
      let (pairs, r) ← readMembers (readValue n d) n r
      return (.object (Fields.ofPairs pairs), r)
  | '"' :: r => do
    let (s, r) ← readString n r
    return (.string s, r)
  | '-' :: r => readUnsigned true r
  | c :: r =>
    if c = 'n' then readWord "ull".toList .null r
    else if c = 't' then readWord "rue".toList (.bool true) r
    else if c = 'f' then readWord "alse".toList (.bool false) r
    else if c.isDigit then readUnsigned false (c :: r)
    else failNext .noValue (c :: r)

def maxDepth : Nat := 127

def read (s : List Char) : Except Fault (Json × List Char) :=
  readValue (s.length + 1) maxDepth s

/-- Whether a value that starts with a character shows its end itself. -/
def closesItself (c : Char) : Bool :=
  c == '{' || c == '[' || c == '"'

/-- Whether a value may end in front of a text. -/
def endsValue : List Char → Bool
  | [] => true
  | c :: _ => isSpace c || ['"', '[', ']', '{', '}', ',', ':'].contains c

/-- The next one of the values that a text holds one behind the other, `none` if nothing but spaces
is left. -/
def next? (s : List Char) : Option (Except Fault (Json × List Char)) :=
  match skipSpace s with
  | [] => none
  | c :: _ => some do
    let (v, rest) ← read s
    if closesItself c || endsValue rest then return (v, rest)
    failNext .trailingCharacters rest

end BenchCharts.Json

/-!
What can be wrong with a JSON text, and where.
-/

namespace BenchCharts.Json

inductive Problem where
  | endInList
  | endInObject
  | endInValue
  | endInString
  | noColon
  | noCommaInList
  | noCommaInObject
  | noValue
  | noIdentifier
  | keyNotString
  | trailingComma
  | tooDeep
  | invalidNumber
  | outOfRange
  | invalidEscape
  | loneSurrogate
  | unpairedSurrogate
  | controlCharacter
  | trailingCharacters
  deriving DecidableEq, Repr

def Problem.message : Problem → String
  | endInList => "EOF while parsing a list"
  | endInObject => "EOF while parsing an object"
  | endInValue => "EOF while parsing a value"
  | endInString => "EOF while parsing a string"
  | noColon => "expected \x60:\x60"
  | noCommaInList => "expected \x60,\x60 or \x60]\x60"
  | noCommaInObject => "expected \x60,\x60 or \x60\x7d\x60"
  | noValue => "expected value"
  | noIdentifier => "expected ident"
  | keyNotString => "key must be a string"
  | trailingComma => "trailing comma"
  | tooDeep => "recursion limit exceeded"
  | invalidNumber => "invalid number"
  | outOfRange => "number out of range"
  | invalidEscape => "invalid escape"
  | loneSurrogate => "lone leading surrogate in hex escape"
  | unpairedSurrogate => "unexpected end of hex escape"
  | controlCharacter => "control character (\\u0000-\\u001F) found while parsing a string"
  | trailingCharacters => "trailing characters"

/-- A problem, found `past` bytes into the text that was still to be read. -/
structure Fault where
  problem : Problem
  rest : List Char
  past : Nat

def utf8 (s : List Char) : List UInt8 :=
  s.flatMap String.utf8EncodeChar

/-- The line of a fault, counted from one, and the bytes in front of it on that line. -/
def Fault.place (text : List Char) (fault : Fault) : Nat × Nat :=
  let bytes := utf8 text
  let index := min (bytes.length - (utf8 fault.rest).length + fault.past) bytes.length
  let read := bytes.take index
  (1 + read.count 10, (read.reverse.takeWhile (· != 10)).length)

def Fault.message (text : List Char) (fault : Fault) : String :=
  let (line, column) := fault.place text
  s!"{fault.problem.message} at line {line} column {column}"

/-- Reads something at the head of a text and answers with what is left. -/
abbrev Reader (α : Type) := List Char → Except Fault (α × List Char)

def failHere (problem : Problem) (rest : List Char) : Except Fault α :=
  .error ⟨problem, rest, 0⟩

def failNext (problem : Problem) (rest : List Char) : Except Fault α :=
  .error ⟨problem, rest, 1⟩

end BenchCharts.Json

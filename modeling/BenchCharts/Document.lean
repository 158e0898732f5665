import BenchCharts.Json.Reader
import BenchCharts.Text.Blank

/-!
Result documents. Some runtimes print start-up logs in front of their JSON dump, so a document
starts at the first `{` or `[` of its text, and whatever follows the value read from there is
ignored.
-/

namespace BenchCharts

open Text

/-- One mapping of a result document. -/
abbrev Section := Fields Json

/-- A result document: one mapping, or the mappings of a list. -/
inductive Document where
  | mapping (fields : Section)
  | sections (items : List Section)

namespace Document

inductive Flaw where
  /-- It is all white space. -/
  | empty
  /-- It holds neither `{` nor `[`. -/
  | noContainer
  /-- Nothing but spaces is left where a value should start. -/
  | noValue
  /-- It is no JSON from the first of them on. -/
  | invalid (problem : Json.Problem) (line column : Nat)
  /-- The value that starts there is neither an object nor an array. -/
  | scalar (value : Json)

def Flaw.message : Flaw → String
  | empty => "empty document"
  | noContainer => "no JSON object or array found"
  | noValue => "no JSON value after preamble"
  | invalid problem line column => s!"{problem.message} at line {line} column {column}"
  | scalar value => s!"expected a mapping or a sequence, found {String.ofList value.compact}"

def toSections : Document → List Section
  | mapping fields => [fields]
  | sections items => items

def opensContainer (c : Char) : Bool :=
  c == '{' || c == '['

/-- The text in front of the document. -/
def preamble (text : List Char) : List Char :=
  text.takeWhile (!opensContainer ·)

/-- The text from the start of the document on. -/
def located (text : List Char) : List Char :=
  text.dropWhile (!opensContainer ·)

def mappingsOf (items : List Json) : List Section :=
  items.filterMap fun
    | .object fields => some fields
    | _ => none

def ofJson : Json → Except Flaw Document
  | .object fields => .ok (mapping fields)
  | .array items => .ok (sections (mappingsOf items))
  | v => .error (.scalar v)

def ofText (text : List Char) : Except Flaw Document :=
  if text.all isBlank then .error .empty
  else match located text with
    | [] => .error .noContainer
    | body => match Json.next? body with
      | none => .error .noValue
      | some (.ok (v, _)) => ofJson v
      | some (.error fault) =>
        let (line, column) := fault.place body
        .error (.invalid fault.problem line column)

/-- What is worth noting about the reading of a text. -/
def notes (text : List Char) : List String :=
  if text.all isBlank ∨ located text = [] then []
  else
    let skipped := (Json.utf8 (preamble text)).length
    let dropped := match Json.read (located text) with
      | .ok (.array items, _) => items.length - (mappingsOf items).length
      | _ => 0
    (if 0 < skipped then [s!"Skipping {skipped} bytes of preamble before JSON"] else []) ++
      if 0 < dropped then [s!"Ignoring {dropped} non-mapping items in top-level sequence"] else []

end Document

end BenchCharts

import BenchCharts.Text.Blank
import BenchCharts.Text.Digit
import BenchCharts.Text.Fold
import BenchCharts.Text.Word

/-!
Patterns on text, regardless of letter case. A pattern is searched for anywhere in a text.
-/

namespace BenchCharts

open Text

inductive CharSet where
  | char (c : Char)
  | range (first last : Char)
  | blank
  | decimal
  | word
  | any
  | union (a b : CharSet)
  | complement (a : CharSet)

/-- Whether a set holds a character or another form of it. -/
def CharSet.contains (c : Char) : CharSet → Bool
  | char d => foldChar c == foldChar d
  | range first last => (caseForms c).any fun d => first ≤ d && d ≤ last
  | blank => isBlank c
  | decimal => isDecimal c
  | word => isWord c
  | any => c != '\n'
  | union a b => a.contains c || b.contains c
  | complement a => !a.contains c

inductive Pattern where
  | empty
  | one (set : CharSet)
  | start
  | stop
  /-- A place where a word starts or ends. -/
  | boundary
  | noBoundary
  | seq (p q : Pattern)
  | either (p q : Pattern)
  | many (p : Pattern)

namespace Pattern

def optional (p : Pattern) : Pattern := either p empty

def some (p : Pattern) : Pattern := seq p (many p)

/-- A place in a text: the character in front of it and the text behind it. -/
structure Place where
  previous : Option Char
  rest : List Char

def Place.atBoundary (place : Place) : Bool :=
  place.previous.any isWord != !endsWord place.rest

/-- Whether a list of places of one text has a place. -/
def Place.isIn (place : Place) (places : List Place) : Bool :=
  places.any (·.rest.length == place.rest.length)

def distinct (places : List Place) : List Place :=
  places.foldr (fun p ps => if p.isIn ps then ps else p :: ps) []

/-- The places that were reached, the last of them in `fresh`, and those that any number of steps
reach from there. Every round finds new ones, so a text has room for `n` rounds. -/
def repeated (step : List Place → List Place) : Nat → (reached fresh : List Place) → List Place
  | 0, reached, _ => reached
  | n + 1, reached, fresh =>
    let fresh := (step fresh).filter fun place => !place.isIn reached
    if fresh.isEmpty then reached else repeated step n (fresh ++ reached) fresh

/-- How many places a text has behind some place. -/
def room (places : List Place) : Nat :=
  places.foldr (fun place n => max place.rest.length n) 0

/-- Where a match that begins at one of some places may end. -/
def ends : Pattern → List Place → List Place
  | empty, places => places
  | one set, places => places.filterMap fun place =>
    match place.rest with
    | c :: rest => if set.contains c then Option.some ⟨c, rest⟩ else none
    | [] => none
  | start, places => places.filter (·.previous.isNone)
  | stop, places => places.filter (·.rest.isEmpty)
  | boundary, places => places.filter (·.atBoundary)
  | noBoundary, places => places.filter (!·.atBoundary)
  | seq p q, places => q.ends (p.ends places)
  | either p q, places => distinct (p.ends places ++ q.ends places)
  | many p, places => repeated p.ends (room places) places places

/-- The places of a text, of which the first comes behind `previous`. -/
def placesFrom (previous : Option Char) : List Char → List Place
  | [] => [⟨previous, []⟩]
  | c :: s => ⟨previous, c :: s⟩ :: placesFrom c s

def occursIn (p : Pattern) (s : List Char) : Bool :=
  !(p.ends (placesFrom none s)).isEmpty

end Pattern

end BenchCharts

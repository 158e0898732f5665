import BenchCharts.Pattern.Reader
import BenchCharts.Text.Search

/-!
The benchmark groups that a report knows, and the keys of a document that belong to them. Keys are
compared without the blanks at their ends and in lower case.
-/

namespace BenchCharts

open Text

/-- The form in which keys and names are compared. -/
def normalKey (s : String) : String :=
  String.ofList (lower (trim s.toList))

inductive Matcher where
  /-- Be the name of the group. -/
  | exact
  /-- Start with the name of the group. -/
  | leading
  /-- Hold a match of the pattern. -/
  | pattern (p : Pattern)

structure Group where
  name : String
  matcher : Matcher

inductive Strength where
  | leading (length : Nat)
  | pattern
  | exact
  deriving DecidableEq, Repr

/-- Exact beats pattern, pattern beats leading, and a longer name beats a shorter one. -/
def Strength.beats : Strength → Strength → Bool
  | leading m, leading n => n < m
  | leading _, _ => false
  | pattern, leading _ => true
  | pattern, _ => false
  | exact, exact => false
  | exact, _ => true

namespace Group

def exact (name : String) : Group := ⟨normalKey name, .exact⟩

def leading (name : String) : Group := ⟨normalKey name, .leading⟩

def pattern (name : String) (p : Pattern) : Group := ⟨normalKey name, .pattern p⟩

/-- How well a normal key fits the group, if at all. -/
def strength? (g : Group) (key : String) : Option Strength :=
  match g.matcher with
  | .exact => if key = g.name then some .exact else none
  | .pattern p => if p.occursIn key.toList then some .pattern else none
  | .leading =>
    if g.name.toList.isPrefixOf key.toList then some (.leading g.name.length) else none

end Group

/-- What the labels of a report's rows hold. -/
inductive Shape where
  | count
  | typed
  | threads
  deriving DecidableEq, Repr

/-- The groups of a report in order of declaration, the keys whose rows name their own group, and
the shape of the labels. -/
structure GroupSet where
  shape : Shape
  groups : List Group
  pooled : List String := []

namespace GroupSet

def exact (shape : Shape) (names : List String) : GroupSet :=
  ⟨shape, names.map Group.exact, []⟩

/-- Also takes the rows under `key`, each for the group that the row names. -/
def pool (set : GroupSet) (key : String) : GroupSet :=
  { set with pooled := set.pooled ++ [normalKey key] }

/-- The first group of the greatest strength from index `i` on, against the `best` so far. -/
def strongest (key : String) (best : Option (Nat × Strength)) (i : Nat) :
    List Group → Option (Nat × Strength)
  | [] => best
  | g :: gs =>
    let best := match g.strength? key, best with
      | none, b => b
      | some s, none => some (i, s)
      | some s, some (j, t) => if s.beats t then some (i, s) else some (j, t)
    strongest key best (i + 1) gs

/-- The index of the group that a document key belongs to. -/
def resolve (set : GroupSet) (key : String) : Option Nat :=
  (strongest (normalKey key) none 0 set.groups).map (·.1)

/-- Whether the rows under a document key name their own group. -/
def isPooled (set : GroupSet) (key : String) : Bool :=
  set.pooled.contains (normalKey key)

end GroupSet

end BenchCharts

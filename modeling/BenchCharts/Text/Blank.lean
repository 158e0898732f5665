/-!
White space, and texts without it at their ends.
-/

namespace BenchCharts.Text

/-- A character of the property `White_Space`. -/
def isBlank (c : Char) : Bool :=
  let n := c.toNat
  n == 0x20 || (9 ≤ n && n ≤ 13) || n == 0x85 || n == 0xA0 || n == 0x1680 ||
    (0x2000 ≤ n && n ≤ 0x200A) || n == 0x2028 || n == 0x2029 || n == 0x202F ||
    n == 0x205F || n == 0x3000

def trimStart (s : List Char) : List Char :=
  s.dropWhile isBlank

def trimEnd (s : List Char) : List Char :=
  (s.reverse.dropWhile isBlank).reverse

def trim (s : List Char) : List Char :=
  trimEnd (trimStart s)

/-- What follows the blanks at the head of a text. -/
abbrev skipBlanks := trimStart

@[simp] theorem trimStart_nil : trimStart [] = [] := rfl

@[simp] theorem trimEnd_nil : trimEnd [] = [] := rfl

@[simp] theorem trim_nil : trim [] = [] := rfl

theorem trimStart_cons (c : Char) (s : List Char) :
    trimStart (c :: s) = if isBlank c then trimStart s else c :: s := by
  cases h : isBlank c <;> simp [trimStart, h]

/-- The words of a text, which blanks separate; `word` is the word under way. -/
def wordsAfter (word : List Char) : List Char → List (List Char)
  | [] => if word.isEmpty then [] else [word]
  | c :: s =>
    if isBlank c then
      if word.isEmpty then wordsAfter [] s else word :: wordsAfter [] s
    else wordsAfter (word ++ [c]) s

/-- The maximal blank-free pieces of a text. -/
def words (s : List Char) : List (List Char) :=
  wordsAfter [] s

end BenchCharts.Text

/-!
Text for devices that know no terminal control: escape sequences and control characters other than
white space are left out. The device reads the bytes of UTF-8, of which sequences know only those of
ASCII and one that ends a string.
-/

namespace BenchCharts.Text

/-- Where a reader of terminal control is. -/
inductive Control where
  | ground
  /-- Behind an escape character. -/
  | escape
  /-- Behind an escape character and a byte that announces another one. -/
  | escapeMore
  /-- In a control sequence, which a letter ends. -/
  | sequence
  /-- In a command to the operating system, which a bell ends. -/
  | systemCommand
  /-- In a device control string, in front of its parameters, inside them and behind them. -/
  | deviceStart
  | deviceParameter
  | deviceMore
  /-- In a string that only its terminator ends. -/
  | string
  deriving DecidableEq, Repr

def isControl (c : Char) : Bool :=
  c.toNat < 32 || c.toNat == 127

/-- Control characters that are white space. -/
def isSpacing (c : Char) : Bool :=
  c == '\t' || c == '\n' || c.toNat == 12 || c == '\r'

/-- Whether a character prints itself outside of sequences. -/
def isPrinted (c : Char) : Bool :=
  !isControl c || isSpacing c

/-- Control characters that break off any sequence. -/
def cancels (c : Char) : Bool :=
  c.toNat == 24 || c.toNat == 26

/-- Whether the string terminator 9C is among the bytes behind the first one of the UTF-8 form. -/
def holdsTerminator (c : Char) : Bool :=
  let n := c.toNat
  (0x80 ≤ n && n % 64 == 0x1C) || (0x800 ≤ n && n / 64 % 64 == 0x1C) ||
    (0x10000 ≤ n && n / 4096 % 64 == 0x1C)

/-- A byte between an introducer and the final byte. -/
def isIntermediate (c : Char) : Bool := ' ' ≤ c && c ≤ '/'

def isParameter (c : Char) : Bool := '0' ≤ c && c ≤ '?'

/-- A byte that ends a control sequence. -/
def isFinal (c : Char) : Bool := '@' ≤ c && c ≤ '~'

/-- What to do after a character that does not print itself. -/
def Control.next (state : Control) (c : Char) : Control :=
  if c.toNat = 27 then escape
  else if cancels c then ground
  else match state with
    | ground => ground
    | escape =>
      if c = '[' then sequence
      else if c = ']' then systemCommand
      else if c = 'P' then deviceStart
      else if c = 'X' ∨ c = '^' ∨ c = '_' then string
      else if isIntermediate c then escapeMore
      else if isParameter c ∨ isFinal c then ground
      else escape
    | escapeMore => if isParameter c ∨ isFinal c then ground else escapeMore
    | sequence => if isFinal c then ground else sequence
    | systemCommand => if c.toNat = 7 then ground else systemCommand
    | deviceStart =>
      if isIntermediate c then deviceMore
      else if isParameter c then deviceParameter
      else if isFinal c then string
      else deviceStart
    | deviceParameter =>
      if isIntermediate c then deviceMore
      else if ('<' ≤ c ∧ c ≤ '?') ∨ isFinal c then string
      else deviceParameter
    | deviceMore => if isParameter c ∨ isFinal c then string else deviceMore
    | string => if holdsTerminator c then ground else string

/-- Whether a character prints itself. White space does inside some sequences, too. -/
def Control.prints (state : Control) (c : Char) : Bool :=
  match state with
  | ground => isPrinted c
  | escape => isSpacing c
  | escapeMore => isSpacing c
  | sequence => isSpacing c
  | _ => false

/-- The characters that print themselves. White space inside a sequence opens a run of text, and the
sequence goes on behind the run; a character outside ASCII in the run ends the sequence. -/
def plainFrom (state : Control) (inRun : Bool) : List Char → List Char
  | [] => []
  | c :: r =>
    if (if inRun then isPrinted c else state.prints c) then
      c :: plainFrom (if c.toNat < 128 then state else .ground) true r
    else plainFrom (state.next c) false r

def plain (s : List Char) : List Char :=
  plainFrom .ground false s

end BenchCharts.Text

import BenchCharts.Text.Ranges
import BenchCharts.Text.WidthTable

/-!
Display width: how many columns of a fixed-width terminal a text takes.

A text is read from its end. Each character either merges with the piece that it stands in front of
or begins a piece of its own, and the width of the text is the sum over its pieces.
-/

namespace BenchCharts.Text

/-- Columns of a character that stands alone. A control character counts as one. -/
def charWidth (c : Char) : Nat :=
  let n := c.toNat
  if n ≤ 0xA0 then 1
  else if n = 0x17D8 then 3
  else if inRanges zeroWidthRanges n then 0
  else if inRanges wideRanges n then 2
  else 1

def isPicture (c : Char) : Bool :=
  inRanges pictureRanges c.toNat

def isModifier (c : Char) : Bool :=
  0x1F3FB ≤ c.toNat && c.toNat ≤ 0x1F3FF

def isIndicator (c : Char) : Bool :=
  0x1F1E6 ≤ c.toNat && c.toNat ≤ 0x1F1FF

/-- A character that a selector can turn into a picture. -/
def hasPictureForm (c : Char) : Bool :=
  inRanges presentationRanges c.toNat

/-- A picture that a selector can turn into a letter: no ideograph in a frame is among them. -/
def hasTextForm (c : Char) : Bool :=
  hasPictureForm c && isPicture c && !(0x1F200 ≤ c.toNat && c.toNat ≤ 0x1F2FF)

/-- The quotation marks that have a form as wide as an ideograph. -/
def isQuotationMark (c : Char) : Bool :=
  [0x2018, 0x2019, 0x201C, 0x201D].contains c.toNat

def isZeroWidthJoiner (c : Char) : Bool :=
  c.toNat == 0x200D

/-- Letters of the Tifinagh script that a joiner binds together. -/
def isTifinaghConsonant (c : Char) : Bool :=
  (0x2D31 ≤ c.toNat && c.toNat ≤ 0x2D65) || c.toNat == 0x2D6F

inductive Selector where
  | text
  | picture
  | fullwidth
deriving DecidableEq

def selector? (c : Char) : Option Selector :=
  match c.toNat with
  | 0xFE01 => some .fullwidth
  | 0xFE0E => some .text
  | 0xFE0F => some .picture
  | _ => none

inductive Ligature where
  /-- An alef waits for a lam. -/
  | alef
  /-- A Hebrew lamed waits for an alef. -/
  | lamed
  /-- A Buginese ya waits for the vowel sign i. -/
  | ya
  /-- A ya with its vowel sign waits for an a. -/
  | vowelYa
  /-- A Tifinagh consonant waits for the joiner of the script or another consonant. -/
  | consonant
  /-- A Tifinagh consonant behind the joiner of the script waits for another consonant. -/
  | boundConsonant
  /-- A Lisu tone letter waits for another one. -/
  | tone
  /-- An Old Turkic i waits for an nt. -/
  | orkhonI
  /-- A Khmer letter waits for the sign that puts it below the line. -/
  | belowLine
deriving DecidableEq

/-- What a piece lets the character in front of it join. -/
inductive Front where
  | closed
  /-- A line feed waits for a carriage return. -/
  | lineFeed
  /-- A selector waits for a character that has the form. -/
  | selector (form : Selector)
  /-- The right-hand part of a ligature; `joined` if a zero-width joiner stands in front of it, and
  perhaps a selector as well. -/
  | ligature (part : Ligature) (joined : Bool) (form : Option Selector)
  /-- The vowel sign e of Kirat Rai waits for another one or the sign aa. -/
  | vowelE
  /-- Two of them, which are the sign ai, wait for the sign aa. -/
  | vowelAi
  | picture
  | modifier
  /-- One letter of a flag. -/
  | indicator
  /-- Several of them. -/
  | indicators
  /-- A zero-width joiner and a picture wait for another picture. Between the two may stand the
  frame of a key and a selector. -/
  | joiner (frame selected : Bool)
  /-- One flag letter in front of a joiner. -/
  | joinedIndicator
  /-- Flag letters in front of a joiner. -/
  | joinedIndicators (even : Bool)
  /-- The tags of a flag, its end tag in front of a joiner: the letters and then the digits. -/
  | tags (letters digits : Nat)
deriving DecidableEq

structure Piece where
  columns : Nat
  front : Front
deriving DecidableEq

def Ligature.ofChar? (c : Char) : Option Ligature :=
  let n := c.toNat
  if inRanges alefRanges n then some .alef
  else if n = 0x5DC then some .lamed
  else if n = 0x1A10 then some .ya
  else if isTifinaghConsonant c then some .consonant
  else if n = 0xA4FC ∨ n = 0xA4FD then some .tone
  else if n = 0x10C03 then some .orkhonI
  else if inRanges coengRanges n then some .belowLine
  else none

/-- What a character lets the one in front of it join. -/
def Front.ofChar (c : Char) : Front :=
  let n := c.toNat
  if c = '\n' then .lineFeed
  else if n = 0x16D67 then .vowelE
  else if isIndicator c then .indicator
  else if isModifier c then .modifier
  else if isPicture c then .picture
  else match selector? c, Ligature.ofChar? c with
    | some form, _ => .selector form
    | none, some part => .ligature part false none
    | none, none => .closed

def Piece.ofChar (c : Char) : Piece :=
  ⟨charWidth c, .ofChar c⟩

/-- A character in the form that a selector asks for, if it has that form. -/
def Selector.piece? (c : Char) : Selector → Option Piece
  | .picture => if hasPictureForm c then some ⟨2, .picture⟩ else none
  | .text => if hasTextForm c then some ⟨1, .closed⟩ else none
  | .fullwidth => if isQuotationMark c then some ⟨2, .closed⟩ else none

def Front.selector? : Front → Option Selector
  | .selector form => some form
  | .ligature _ _ form => form
  | _ => none

/-- What becomes of `columns` and the right-hand part of a ligature when `c`, which is no selector,
comes in front. -/
def Ligature.join? (c : Char) (columns : Nat) (joined : Bool) (part : Ligature) : Option Piece :=
  let n := c.toNat
  let same : Piece := ⟨columns, .ligature part joined none⟩
  if part = .alef then
    if inRanges lamRanges n then some ⟨columns, .closed⟩
    else if inRanges zeroWidthRanges n ∧ ¬inRanges partingRanges n then some same
    else none
  else if isZeroWidthJoiner c then some ⟨columns, .ligature part true none⟩
  else if inRanges ignorableMarkRanges n then some same
  else match part with
    | .alef => none
    | .lamed => if joined ∧ n = 0x5D0 then some ⟨columns, .closed⟩ else none
    | .ya => if joined ∧ n = 0x1A17 then some ⟨columns, .ligature .vowelYa false none⟩ else none
    | .vowelYa => if n = 0x1A15 then some ⟨columns, .closed⟩ else none
    | .consonant =>
      if n = 0x2D7F then some ⟨columns + 1, .ligature .boundConsonant false none⟩
      else if joined ∧ isTifinaghConsonant c then some ⟨columns, .closed⟩
      else none
    | .boundConsonant =>
      -- the joiner shows only where it binds nothing
      if isTifinaghConsonant c then some ⟨columns - 1, .closed⟩ else none
    | .tone => if 0xA4F8 ≤ n ∧ n ≤ 0xA4FB then some ⟨columns, .closed⟩ else none
    | .orkhonI => if joined ∧ n = 0x10C32 then some ⟨columns, .closed⟩ else none
    | .belowLine => if n = 0x17D2 then some ⟨columns - 1, .closed⟩ else none

/-- The tags of a flag with one tag more in front of them, or with the black flag, which ends them:
a region of two letters or three digits and, behind it, a subdivision of up to four letters. -/
def joinTags? (c : Char) (columns letters digits : Nat) : Option Piece :=
  let n := c.toNat
  if 0xE0061 ≤ n ∧ n ≤ 0xE007A then
    if digits = 0 ∧ letters < 6 then some ⟨columns, .tags (letters + 1) 0⟩ else none
  else if 0xE0030 ≤ n ∧ n ≤ 0xE0039 then
    if digits < 3 ∧ letters ≤ 4 then some ⟨columns, .tags letters (digits + 1)⟩ else none
  else if n = 0x1F3F4 then
    if digits = 3 ∨ (digits = 0 ∧ 3 ≤ letters) then some ⟨columns, .picture⟩ else none
  else none

/-- The piece that `c` and the piece behind it make together. -/
def Piece.join? (c : Char) (p : Piece) : Option Piece :=
  let n := c.toNat
  match p.front with
  | .closed => none
  | .lineFeed => if c = '\r' then some { p with front := .closed } else none
  | .selector _ => none
  | .ligature part joined _ =>
    match Text.selector? c with
    | some form => some { p with front := .ligature part joined (some form) }
    | none => part.join? c p.columns joined
  | .vowelE =>
    if n = 0x16D67 then some { p with front := .vowelAi }
    else if n = 0x16D63 then some { p with front := .closed }
    else none
  | .vowelAi => if n = 0x16D63 then some { p with front := .closed } else none
  | .picture => if isZeroWidthJoiner c then some { p with front := .joiner false false } else none
  | .modifier =>
    if inRanges modifierBaseRanges n then some { p with front := .picture }
    else if isZeroWidthJoiner c then some { p with front := .joiner false false }
    else none
  | .indicator => if isIndicator c then some ⟨p.columns + 1, .indicators⟩ else none
  | .indicators =>
    if isIndicator c then some ⟨p.columns + 1, .indicators⟩
    else if isZeroWidthJoiner c then some { p with front := .joiner false false }
    else none
  | .joiner _ true => if hasPictureForm c then some { p with front := .picture } else none
  | .joiner true false => if n = 0xFE0F then some { p with front := .joiner true true } else none
  | .joiner false false =>
    if n = 0xFE0F then some { p with front := .joiner false true }
    else if n = 0x20E3 then some { p with front := .joiner true false }
    else if isIndicator c then some ⟨p.columns + 1, .joinedIndicator⟩
    else if isModifier c then some { p with front := .modifier }
    else if n = 0xE007F then some { p with front := .tags 0 0 }
    else if isPicture c then some { p with front := .picture }
    else none
  | .joinedIndicator => if isIndicator c then some ⟨p.columns - 1, .joinedIndicators true⟩ else none
  | .joinedIndicators even =>
    -- flags are counted from the left, so an odd number of letters leaves the last one alone
    if isIndicator c then
      some (if even then ⟨p.columns + 3, .joinedIndicators false⟩
        else ⟨p.columns - 1, .joinedIndicators true⟩)
    else if isZeroWidthJoiner c then some { p with front := .joiner false false }
    else none
  | .tags letters digits => joinTags? c p.columns letters digits

/-- The pieces of a text with `c` in front. -/
def addFront (c : Char) : List Piece → List Piece
  | [] => [.ofChar c]
  | p :: rest =>
    match p.front.selector?.bind (·.piece? c) with
    | some q => q :: p :: rest
    | none =>
      match p.join? c with
      | some q => q :: rest
      | none => .ofChar c :: p :: rest

/-- Vowel signs of Kirat Rai that stand for two or three others. -/
def vowelParts (c : Char) : List Char :=
  match c.toNat with
  | 0x16D68 => [Char.ofNat 0x16D67, Char.ofNat 0x16D67]
  | 0x16D69 => [Char.ofNat 0x16D63, Char.ofNat 0x16D67]
  | 0x16D6A => [Char.ofNat 0x16D63, Char.ofNat 0x16D67, Char.ofNat 0x16D67]
  | _ => [c]

def pieces (s : List Char) : List Piece :=
  (s.flatMap vowelParts).foldr addFront []

def totalColumns : List Piece → Nat
  | [] => 0
  | p :: rest => p.columns + totalColumns rest

def width (s : List Char) : Nat :=
  totalColumns (pieces s)

@[simp] theorem width_nil : width [] = 0 := rfl

end BenchCharts.Text

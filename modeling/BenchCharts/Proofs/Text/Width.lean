import BenchCharts.Text.Width

/-!
Display width adds up over texts that blanks keep apart: a blank joins neither the piece behind it
nor the one in front of it.
-/

namespace BenchCharts.Text

def blankPiece : Piece :=
  ⟨1, .closed⟩

theorem ofChar_blank : Piece.ofChar ' ' = blankPiece := by
  decide

theorem Selector.piece?_blank (form : Selector) : form.piece? ' ' = none := by
  cases form with
  | text => decide
  | picture => decide
  | fullwidth => decide

theorem Ligature.join?_blank (part : Ligature) (columns : Nat) (joined : Bool) :
    part.join? ' ' columns joined = none := by
  have hlam : inRanges lamRanges 32 = false := by decide +kernel
  have hzero : inRanges zeroWidthRanges 32 = false := by decide +kernel
  have hmark : inRanges ignorableMarkRanges 32 = false := by decide +kernel
  have hjoiner : isZeroWidthJoiner ' ' = false := by decide
  have hconsonant : isTifinaghConsonant ' ' = false := by decide
  cases part <;> simp [Ligature.join?, hlam, hzero, hmark, hjoiner, hconsonant]

theorem Piece.join?_blank (p : Piece) : p.join? ' ' = none := by
  have hjoiner : isZeroWidthJoiner ' ' = false := by decide
  have hindicator : isIndicator ' ' = false := by decide
  have hmodifier : isModifier ' ' = false := by decide
  have hbase : inRanges modifierBaseRanges 32 = false := by decide +kernel
  have hpicture : isPicture ' ' = false := by decide +kernel
  have hform : hasPictureForm ' ' = false := by decide +kernel
  have hselector : Text.selector? ' ' = none := by decide
  obtain ⟨columns, front⟩ := p
  cases front with
  | ligature part joined form => simp [Piece.join?, hselector, Ligature.join?_blank]
  | joiner frame selected =>
    cases selected <;> cases frame <;>
      simp [Piece.join?, hindicator, hmodifier, hpicture, hform]
  | tags letters digits => simp [Piece.join?, joinTags?]
  | _ => simp [Piece.join?, hjoiner, hindicator, hbase]

theorem addFront_blank (ps : List Piece) : addFront ' ' ps = blankPiece :: ps := by
  cases ps with
  | nil => rw [addFront, ofChar_blank]
  | cons p rest =>
    have hselector : p.front.selector?.bind (·.piece? ' ') = none := by
      apply Option.bind_eq_none_iff.mpr
      exact fun form _ => form.piece?_blank
    rw [addFront, hselector, p.join?_blank, ofChar_blank]

theorem addFront_append (c : Char) (ps : List Piece) {p : Piece} (h : p.front = .closed)
    (rest : List Piece) : addFront c (ps ++ p :: rest) = addFront c ps ++ p :: rest := by
  cases ps with
  | nil =>
    have hselector : p.front.selector?.bind (·.piece? c) = none := by rw [h]; rfl
    have hjoin : p.join? c = none := by rw [Piece.join?, h]
    change addFront c (p :: rest) = .ofChar c :: p :: rest
    rw [addFront, hselector, hjoin]
  | cons q ps =>
    rw [List.cons_append]
    simp only [addFront]
    split
    · rfl
    · split <;> rfl

/-- Nothing joins a piece that is closed, so what stands in front of it is read on its own. -/
theorem foldr_addFront_closed (s : List Char) {p : Piece} (h : p.front = .closed)
    (rest : List Piece) :
    s.foldr addFront (p :: rest) = s.foldr addFront [] ++ p :: rest := by
  induction s with
  | nil => rfl
  | cons c s ih => rw [List.foldr_cons, ih, addFront_append c _ h, List.foldr_cons]

theorem pieces_append_blank (s t : List Char) :
    pieces (s ++ ' ' :: t) = pieces s ++ blankPiece :: pieces t := by
  have hparts : vowelParts ' ' = [' '] := by decide
  rw [pieces, List.flatMap_append, List.flatMap_cons, hparts, List.foldr_append, List.foldr_append,
    List.foldr_cons, List.foldr_nil, addFront_blank]
  exact foldr_addFront_closed _ rfl _

theorem totalColumns_append (ps qs : List Piece) :
    totalColumns (ps ++ qs) = totalColumns ps + totalColumns qs := by
  induction ps with
  | nil => exact (Nat.zero_add _).symm
  | cons p ps ih => rw [List.cons_append, totalColumns, totalColumns, ih, Nat.add_assoc]

theorem width_append_blank (s t : List Char) : width (s ++ ' ' :: t) = width s + 1 + width t := by
  rw [width, pieces_append_blank, totalColumns_append, Nat.add_assoc]
  rfl

theorem width_append_blanks (s t : List Char) {n : Nat} (h : 0 < n) :
    width (s ++ List.replicate n ' ' ++ t) = width s + n + width t := by
  induction n generalizing s with
  | zero => cases h
  | succ n ih =>
    rw [List.replicate_succ, List.append_assoc, List.cons_append, width_append_blank]
    cases n with
    | zero => rfl
    | succ n =>
      have hrest := ih [] n.succ_pos
      rw [List.nil_append, width_nil, Nat.zero_add] at hrest
      rw [hrest]
      omega

end BenchCharts.Text

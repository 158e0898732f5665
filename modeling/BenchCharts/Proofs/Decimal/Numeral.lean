import BenchCharts.Decimal.Numeral
import BenchCharts.Proofs.Decimal.Natural
import BenchCharts.Proofs.Text.Search

/-!
The texts of decimal numerals, said without a reader, and the number that is read from each of them.
-/

namespace BenchCharts.Decimal

open Text

def AllDigits (ds : List Char) : Prop :=
  ∀ c ∈ ds, c.isDigit = true

/-- A sign, which may be left out, and whether it is a minus. -/
inductive IsSign : List Char → Bool → Prop
  | none : IsSign [] false
  | plus : IsSign ['+'] false
  | minus : IsSign ['-'] true

/-- Digits with an optional point in front of them, among them or behind: the text, its digits, and
how many of these stand behind the point. -/
inductive IsMantissa : (text digits : List Char) → (places : Nat) → Prop
  | whole {ds} (hne : ds ≠ []) (hd : AllDigits ds) : IsMantissa ds ds 0
  | point {ds fs} (hne : ds ++ fs ≠ []) (hd : AllDigits ds) (hf : AllDigits fs) :
      IsMantissa (ds ++ '.' :: fs) (ds ++ fs) fs.length

/-- An exponent, which may be left out, and its value. -/
inductive IsExponent : List Char → Int → Prop
  | none : IsExponent [] 0
  | mk {mark sign negative ds} (hmark : mark = 'e' ∨ mark = 'E') (hs : IsSign sign negative)
      (hne : ds ≠ []) (hd : AllDigits ds) :
      IsExponent (mark :: (sign ++ ds))
        (if negative then -(valueOfDigits ds : Int) else valueOfDigits ds)

/-- The texts of a numeral: a sign, digits with an optional point, and an exponent. -/
inductive Numeral.Written : List Char → Numeral → Prop
  | mk {sign negative mantissa ds places exponent e} (hs : IsSign sign negative)
      (hm : IsMantissa mantissa ds places) (he : IsExponent exponent e) :
      Written (sign ++ (mantissa ++ exponent)) ⟨negative, valueOfDigits ds, e - places⟩

theorem AllDigits.isDigit_head {ds : List Char} (h : AllDigits ds) (hne : ds ≠ []) (s : List Char) :
    ∀ c ∈ (ds ++ s).head?, c.isDigit = true := by
  cases ds with
  | nil => exact (hne rfl).elim
  | cons d ds =>
    rintro _ ⟨rfl⟩
    exact h d List.mem_cons_self

def StartsUnsigned (s : List Char) : Prop :=
  ∀ c ∈ s.head?, c.isDigit = true ∨ c = '.'

theorem StartsUnsigned.not_sign {s : List Char} (h : StartsUnsigned s) :
    ∀ c ∈ s.head?, c ≠ '-' ∧ c ≠ '+' := by
  intro c hc
  rcases h c hc with hd | rfl
  · exact ⟨ne_of_isDigit hd rfl, ne_of_isDigit hd rfl⟩
  · decide

theorem AllDigits.startsUnsigned {ds : List Char} (h : AllDigits ds) (hne : ds ≠ [])
    (s : List Char) : StartsUnsigned (ds ++ s) :=
  fun c hc => .inl (h.isDigit_head hne s c hc)

theorem IsMantissa.startsUnsigned {m ds : List Char} {places : Nat} (h : IsMantissa m ds places)
    (s : List Char) : StartsUnsigned (m ++ s) := by
  cases h with
  | whole hne hd => exact hd.startsUnsigned hne s
  | @point ds fs _ hd _ =>
    cases ds with
    | nil =>
      rintro _ ⟨rfl⟩
      exact .inr rfl
    | cons d ds =>
      rw [List.append_assoc]
      exact hd.startsUnsigned (List.cons_ne_nil d ds) _

def signOf : List Char → List Char × List Char
  | '-' :: r => (['-'], r)
  | '+' :: r => (['+'], r)
  | r => ([], r)

theorem readSign_eq (s : List Char) : readSign s = ((signOf s).1 == ['-'], (signOf s).2) := by
  unfold signOf
  split
  · rfl
  · rfl
  · next hminus hplus =>
    unfold readSign
    split
    · exact (hminus _ rfl).elim
    · exact (hplus _ rfl).elim
    · rfl

theorem IsSign.signOf_append {sign s : List Char} {negative : Bool} (h : IsSign sign negative)
    (hs : StartsUnsigned s) : signOf (sign ++ s) = (sign, s) := by
  cases h with
  | none =>
    rw [List.nil_append]
    unfold signOf
    split
    · exact absurd rfl (hs.not_sign '-' rfl).1
    · exact absurd rfl (hs.not_sign '+' rfl).2
    · rfl
  | plus => rfl
  | minus => rfl

theorem IsSign.readSign_append {sign s : List Char} {negative : Bool} (h : IsSign sign negative)
    (hs : StartsUnsigned s) : readSign (sign ++ s) = (negative, s) := by
  rw [readSign_eq, h.signOf_append hs]
  cases h <;> rfl

theorem IsExponent.head {exponent : List Char} {e : Int} (h : IsExponent exponent e) :
    ∀ c ∈ exponent.head?, c = 'e' ∨ c = 'E' := by
  cases h with
  | none => exact fun c hc => nomatch hc
  | mk hmark =>
    rintro _ ⟨rfl⟩
    exact hmark

theorem IsExponent.readExponent?_eq {exponent : List Char} {e : Int} (h : IsExponent exponent e) :
    readExponent? exponent = some e := by
  cases h with
  | none => rfl
  | @mk mark sign negative ds hmark hs hne hd =>
    have hread := hs.readSign_append (hd.startsUnsigned hne [])
    have hvalue : natural? ds = some (valueOfDigits ds) :=
      if_pos ⟨hne, List.all_eq_true.mpr hd⟩
    rw [List.append_nil] at hread
    rw [readExponent?, if_pos hmark, hread]
    simp only [hvalue]
    rfl

theorem IsMantissa.readUnsigned?_append {m ds exponent : List Char} {places : Nat} {e : Int}
    (h : IsMantissa m ds places) (he : IsExponent exponent e) (negative : Bool) :
    readUnsigned? negative (m ++ exponent) =
      some ⟨negative, valueOfDigits ds, e - places⟩ := by
  have hstop : ∀ c ∈ exponent.head?, c.isDigit = false := by
    intro c hc
    rcases he.head c hc with rfl | rfl <;> rfl
  cases h with
  | whole hne hd =>
    obtain ⟨htake, hdrop⟩ := span_append hd hstop
    rw [readUnsigned?, htake, hdrop]
    split
    next heq =>
      split at heq
      · rcases he.head '.' rfl with h | h <;> cases h
      · cases heq
        rw [if_neg fun h => hne h.1, he.readExponent?_eq, List.append_nil]
        rfl
  | @point ds fs hne hd hf =>
    have hpoint : ∀ c ∈ ('.' :: (fs ++ exponent)).head?, c.isDigit = false := by
      rintro _ ⟨rfl⟩
      rfl
    obtain ⟨htake, hdrop⟩ := span_append hd hpoint
    obtain ⟨hfraction, hrest⟩ := span_append hf hstop
    rw [List.append_assoc, List.cons_append, readUnsigned?, htake, hdrop]
    simp only [hfraction, hrest]
    rw [if_neg fun h => hne (List.append_eq_nil_iff.mpr h), he.readExponent?_eq]
    rfl

theorem AllDigits.notMem {ds : List Char} (h : AllDigits ds) {c : Char} (hc : c.isDigit = false) :
    c ∉ ds :=
  fun hm => ne_of_isDigit (h c hm) hc rfl

theorem IsSign.notMem {sign : List Char} {negative : Bool} (h : IsSign sign negative) {c : Char}
    (hplus : c ≠ '+') (hminus : c ≠ '-') : c ∉ sign := by
  cases h <;> simp [hplus, hminus]

theorem Numeral.Written.notMem {d : List Char} {n : Numeral} (h : n.Written d) {c : Char}
    (hdigit : c.isDigit = false) (hc : c ∉ ['+', '-', '.', 'e', 'E']) : c ∉ d := by
  simp only [List.mem_cons, List.not_mem_nil, or_false, not_or] at hc
  obtain ⟨hplus, hminus, hpoint, he, hE⟩ := hc
  obtain ⟨hs, hm, hx⟩ := h
  simp only [List.mem_append, not_or]
  refine ⟨hs.notMem hplus hminus, ?_, ?_⟩
  · cases hm with
    | whole _ hd => exact hd.notMem hdigit
    | point _ hd hf => simp [hd.notMem hdigit, hf.notMem hdigit, hpoint]
  · cases hx with
    | none => exact List.not_mem_nil
    | mk hmark hs _ hd =>
      have hne := hmark.elim (fun h => h ▸ he) fun h => h ▸ hE
      simp [hs.notMem hplus hminus, hd.notMem hdigit, hne]

theorem toLower_cases (c : Char) :
    c.toLower = c ∨ 'A'.toNat ≤ c.toNat ∧ c.toNat ≤ 'Z'.toNat ∧
      c.toLower.toNat = c.toNat + 32 := by
  unfold Char.toLower
  split
  · next h =>
    have hfirst := UInt32.le_iff_toNat_le.mp h.1
    have hlast := UInt32.le_iff_toNat_le.mp h.2
    refine .inr ⟨hfirst, hlast, ?_⟩
    rw [Char.toNat_mk, UInt32.toNat_add]
    apply Nat.mod_eq_of_lt
    have hz : 'Z'.val.toNat + ('a'.val - 'A'.val).toNat < 2 ^ 32 := by decide
    exact Nat.lt_of_le_of_lt (Nat.add_le_add_right hlast _) hz
  · exact .inl rfl

theorem eq_or_eq_of_toLower {c low up : Char} (h : c.toLower = low)
    (hup : low.toNat = up.toNat + 32) : c = low ∨ c = up := by
  rcases toLower_cases c with hc | ⟨_, _, hc⟩
  · exact .inl (hc.symm.trans h)
  · right
    apply Char.toNat_inj.mp
    rw [h, hup] at hc
    exact Nat.add_right_cancel hc.symm

theorem toLower_of_isDigit {c : Char} (h : c.isDigit = true) : c.toLower = c := by
  rcases toLower_cases c with hc | ⟨hfirst, _, _⟩
  · exact hc
  · have hlast := (Char.isDigit_iff_toNat.mp h).2
    have hbound : '9'.toNat < 'A'.toNat := by decide
    omega

theorem Numeral.Written.readFloat?_eq {d : List Char} {n : Numeral} (h : Written d n) :
    readFloat? d = some n.toFloat := by
  obtain ⟨hs, hm, he⟩ := h
  rename_i sign negative mantissa ds places exponent e
  have hstart := hm.startsUnsigned exponent
  -- neither a digit nor a point is a letter of a name
  have hname {name : List Char} {c : Char} (hc : name.head? = some c)
      (hletter : c.isDigit = false ∧ c ≠ '.') :
      (mantissa ++ exponent).map Char.toLower ≠ name := by
    rintro rfl
    rw [List.head?_map] at hc
    obtain ⟨x, hx, rfl⟩ := Option.map_eq_some_iff.mp hc
    rcases hstart x hx with hdigit | rfl
    · rw [toLower_of_isDigit hdigit] at hletter
      exact ne_of_isDigit hdigit hletter.1 rfl
    · exact hletter.2 rfl
  have hinf : (mantissa ++ exponent).map Char.toLower ≠ "inf".toList := hname rfl (by decide)
  have hinfinity : (mantissa ++ exponent).map Char.toLower ≠ "infinity".toList :=
    hname rfl (by decide)
  have hnan : (mantissa ++ exponent).map Char.toLower ≠ "nan".toList := hname rfl (by decide)
  rw [readFloat?, hs.readSign_append hstart]
  dsimp only
  rw [if_neg (not_or.mpr ⟨hinf, hinfinity⟩), if_neg hnan, hm.readUnsigned?_append he]
  rfl

end BenchCharts.Decimal

import BenchCharts.Duration
import BenchCharts.Proofs.Decimal.Numeral
import BenchCharts.Proofs.Text.Blank
import BenchCharts.Proofs.Text.Digit

/-!
Durations within a text: a numeral with a unit is read as a whole wherever it stands, if no digit is
in front of it and no word goes on behind it.
-/

namespace BenchCharts.Duration

open Text Decimal

/-! ### The reader of numerals, part by part -/

/-- The point at the head of a text with the digits behind it, and what follows them. -/
def fractionOf : List Char → List Char × List Char
  | '.' :: r => ('.' :: r.takeWhile isDecimal, r.dropWhile isDecimal)
  | r => ([], r)

def numeralAfter? (sign s : List Char) : Option (List Char × List Char) :=
  let whole := s.takeWhile isDecimal
  let (fraction, s) := fractionOf (s.dropWhile isDecimal)
  if whole = [] ∧ fraction.length < 2 then none
  else
    let (exponent, s) := numeral?.exponent s
    some (sign ++ whole ++ fraction ++ exponent, s)

theorem numeral?_eq (s : List Char) : numeral? s = numeralAfter? (signOf s).1 (signOf s).2 := rfl

theorem exponent_cons {mark : Char} (h : mark = 'e' ∨ mark = 'E') (s : List Char) :
    numeral?.exponent (mark :: s) =
      if (signOf s).2.takeWhile isDecimal = [] then ([], mark :: s)
      else (mark :: (signOf s).1 ++ (signOf s).2.takeWhile isDecimal,
        (signOf s).2.dropWhile isDecimal) :=
  if_pos h

theorem fractionOf_of_head {s : List Char} (h : ∀ c ∈ s.head?, c ≠ '.') :
    fractionOf s = ([], s) := by
  unfold fractionOf
  split
  · exact absurd rfl (h '.' rfl)
  · rfl

/-! ### Numerals are read as a whole -/

/-- What stands behind a numeral does not go on with it. -/
def EndsNumeral (rest : List Char) : Prop :=
  ∀ c ∈ rest.head?, isDecimal c = false ∧ c ≠ '.' ∧ c ≠ 'e' ∧ c ≠ 'E'

theorem isDecimal_of_allDigits {ds : List Char} (h : AllDigits ds) :
    ∀ c ∈ ds, isDecimal c = true :=
  fun c hc => isDecimal_of_isDigit (h c hc)

theorem exponent_append {exponent rest : List Char} {e : Int} (h : IsExponent exponent e)
    (hr : EndsNumeral rest) : numeral?.exponent (exponent ++ rest) = (exponent, rest) := by
  cases h with
  | none =>
    cases rest with
    | nil => rfl
    | cons c rest =>
      obtain ⟨_, _, he, hE⟩ := hr c rfl
      exact if_neg (not_or.mpr ⟨he, hE⟩)
  | @mk mark sign negative ds hmark hs hne hd =>
    obtain ⟨htake, hdrop⟩ := span_append (isDecimal_of_allDigits hd) fun c hc => (hr c hc).1
    rw [List.cons_append, exponent_cons hmark, List.append_assoc,
      hs.signOf_append (hd.startsUnsigned hne rest)]
    dsimp only
    rw [htake, hdrop, if_neg hne]
    rfl

theorem endsMantissa {exponent rest : List Char} {e : Int} (h : IsExponent exponent e)
    (hr : EndsNumeral rest) : ∀ c ∈ (exponent ++ rest).head?, isDecimal c = false ∧ c ≠ '.' := by
  cases exponent with
  | nil => exact fun c hc => ⟨(hr c hc).1, (hr c hc).2.1⟩
  | cons mark exponent =>
    rintro _ ⟨rfl⟩
    rcases h.head mark rfl with rfl | rfl <;> decide

theorem numeralAfter?_append {m ds exponent rest : List Char} {places : Nat} {e : Int}
    (hm : IsMantissa m ds places) (he : IsExponent exponent e) (hr : EndsNumeral rest)
    (sign : List Char) :
    numeralAfter? sign (m ++ (exponent ++ rest)) = some (sign ++ (m ++ exponent), rest) := by
  have hend := endsMantissa he hr
  have hstop : ∀ c ∈ (exponent ++ rest).head?, isDecimal c = false := fun c hc => (hend c hc).1
  have hexponent := exponent_append he hr
  cases hm with
  | whole hne hd =>
    obtain ⟨htake, hdrop⟩ := span_append (isDecimal_of_allDigits hd) hstop
    have hfraction := fractionOf_of_head fun c hc => (hend c hc).2
    rw [numeralAfter?, htake, hdrop, hfraction]
    dsimp only
    rw [if_neg fun h => hne h.1, hexponent, List.append_nil, List.append_assoc]
  | @point ds fs hne hd hf =>
    have hpoint : ∀ c ∈ ('.' :: (fs ++ (exponent ++ rest))).head?, isDecimal c = false := by
      rintro _ ⟨rfl⟩
      rfl
    obtain ⟨htake, hdrop⟩ := span_append (isDecimal_of_allDigits hd) hpoint
    obtain ⟨htakeFraction, hdropFraction⟩ := span_append (isDecimal_of_allDigits hf) hstop
    have hfraction : fractionOf ('.' :: (fs ++ (exponent ++ rest))) =
        ('.' :: fs, exponent ++ rest) := by
      rw [fractionOf, htakeFraction, hdropFraction]
    have hdigits : ¬ (ds = [] ∧ ('.' :: fs).length < 2) := by
      rintro ⟨hds, hlength⟩
      have hfs : fs = [] :=
        List.length_eq_zero_iff.mp (Nat.lt_one_iff.mp (Nat.lt_of_succ_lt_succ hlength))
      exact hne (List.append_eq_nil_iff.mpr ⟨hds, hfs⟩)
    rw [List.append_assoc, List.cons_append, numeralAfter?, htake, hdrop, hfraction]
    dsimp only
    rw [if_neg hdigits, hexponent]
    simp only [List.append_assoc]

theorem numeral?_append {d rest : List Char} {n : Numeral} (h : n.Written d)
    (hr : EndsNumeral rest) : numeral? (d ++ rest) = some (d, rest) := by
  obtain ⟨hs, hm, he⟩ := h
  rw [List.append_assoc, List.append_assoc, numeral?_eq, hs.signOf_append (hm.startsUnsigned _)]
  exact numeralAfter?_append hm he hr _

/-! ### No numeral starts in front -/

/-- A text in front of a numeral with no part of one: it has no digit, and no sign or point at its
end. -/
structure NoNumeral (v : List Char) : Prop where
  notDecimal : ∀ c ∈ v, isDecimal c = false
  last : ∀ c ∈ v.getLast?, c ≠ '+' ∧ c ≠ '-' ∧ c ≠ '.'

theorem NoNumeral.suffix {v w : List Char} (h : NoNumeral v) (hw : w <:+ v) (hne : w ≠ []) :
    NoNumeral w where
  notDecimal := fun c hc => h.notDecimal c (hw.subset hc)
  last := by
    obtain ⟨u, rfl⟩ := hw
    rw [← List.getLast?_append_of_ne_nil u hne]
    exact h.last

theorem NoNumeral.notDecimal_head {v : List Char} (h : NoNumeral v) (hne : v ≠ [])
    (rest : List Char) : ∀ c ∈ (v ++ rest).head?, isDecimal c = false := by
  cases v with
  | nil => exact (hne rfl).elim
  | cons d v =>
    rintro _ ⟨rfl⟩
    exact h.notDecimal d List.mem_cons_self

theorem NoNumeral.tail {c : Char} {v : List Char} (h : NoNumeral (c :: v))
    (hc : c = '+' ∨ c = '-' ∨ c = '.') : v ≠ [] ∧ NoNumeral v := by
  have hne : v ≠ [] := by
    rintro rfl
    obtain ⟨hplus, hminus, hpoint⟩ := h.last c rfl
    rcases hc with hc | hc | hc
    · exact hplus hc
    · exact hminus hc
    · exact hpoint hc
  exact ⟨hne, h.suffix (List.suffix_cons c v) hne⟩

theorem NoNumeral.length_fractionOf_lt {v : List Char} (h : NoNumeral v) (hne : v ≠ [])
    (rest : List Char) : (fractionOf (v ++ rest)).1.length < 2 := by
  cases v with
  | nil => exact (hne rfl).elim
  | cons c v =>
    by_cases hc : c = '.'
    · subst hc
      obtain ⟨hne', hv⟩ := h.tail (.inr (.inr rfl))
      have hstop := (span_of_head (hv.notDecimal_head hne' rest)).1
      rw [List.cons_append, fractionOf, hstop]
      exact Nat.one_lt_two
    · have hhead : ∀ x ∈ (c :: v ++ rest).head?, x ≠ '.' := by
        rintro _ ⟨rfl⟩
        exact hc
      rw [fractionOf_of_head hhead]
      exact Nat.two_pos

theorem NoNumeral.numeralAfter?_eq_none {v : List Char} (h : NoNumeral v) (hne : v ≠ [])
    (sign rest : List Char) : numeralAfter? sign (v ++ rest) = none := by
  obtain ⟨htake, hdrop⟩ := span_of_head (h.notDecimal_head hne rest)
  rw [numeralAfter?, htake, hdrop]
  exact if_pos ⟨rfl, h.length_fractionOf_lt hne rest⟩

theorem NoNumeral.numeral?_eq_none {v : List Char} (h : NoNumeral v) (hne : v ≠ [])
    (rest : List Char) : numeral? (v ++ rest) = none := by
  rw [numeral?_eq]
  cases v with
  | nil => exact (hne rfl).elim
  | cons c v =>
    have hsigned (hc : c = '+' ∨ c = '-' ∨ c = '.') (sign : List Char) :
        numeralAfter? sign (v ++ rest) = none := by
      obtain ⟨hne', hv⟩ := h.tail hc
      exact hv.numeralAfter?_eq_none hne' sign rest
    rw [List.cons_append]
    unfold signOf
    split
    · next heq =>
      obtain ⟨rfl, rfl⟩ := List.cons.inj heq
      exact hsigned (.inr (.inl rfl)) _
    · next heq =>
      obtain ⟨rfl, rfl⟩ := List.cons.inj heq
      exact hsigned (.inl rfl) _
    · exact h.numeralAfter?_eq_none hne _ rest

theorem NoNumeral.token?_eq_none {v : List Char} (h : NoNumeral v) (hne : v ≠ [])
    (rest : List Char) : token? (v ++ rest) = none := by
  rw [token?, h.numeral?_eq_none hne rest]
  rfl

/-! ### Units and micro signs -/

def unitNames : TimeUnit → List (List Char)
  | .ns => [['n', 's']]
  | .us => [['u', 's'], ['µ', 's'], ['μ', 's']]
  | .ms => [['m', 's']]
  | .s => [['s']]

def Names (u : List Char) (unit : TimeUnit) : Prop :=
  u.map Char.toLower ∈ unitNames unit

theorem plainMicro_of_ne {c : Char} (h : c ≠ 'µ' ∧ c ≠ 'μ') : plainMicro c = c :=
  if_neg (not_or.mpr h)

theorem plainMicro_cases (c : Char) :
    (c = 'µ' ∨ c = 'μ') ∧ plainMicro c = 'u' ∨ (c ≠ 'µ' ∧ c ≠ 'μ') ∧ plainMicro c = c := by
  by_cases h : c = 'µ' ∨ c = 'μ'
  · exact .inl ⟨h, if_pos h⟩
  · exact .inr ⟨not_or.mp h, if_neg h⟩

theorem toLower_plainMicro (c : Char) : (plainMicro c).toLower = plainMicro c.toLower := by
  rcases plainMicro_cases c with ⟨h, hc⟩ | ⟨h, hc⟩
  · rw [hc]
    rcases h with rfl | rfl <;> decide
  · rw [hc]
    rcases toLower_cases c with hlow | ⟨_, hlast, hlow⟩
    · rw [hlow, hc]
    · -- a letter of ASCII becomes one
      have hascii : c.toLower.toNat < 'µ'.toNat ∧ c.toLower.toNat < 'μ'.toNat := by
        have hz : 'Z'.toNat + 32 < 'µ'.toNat ∧ 'Z'.toNat + 32 < 'μ'.toNat := by decide
        omega
      rw [plainMicro_of_ne]
      constructor
      · rintro he
        exact absurd hascii.1 (he ▸ Nat.lt_irrefl _)
      · rintro he
        exact absurd hascii.2 (he ▸ Nat.lt_irrefl _)

/-- The letters of a unit with plain micro signs: one letter in front of an `s`, or an `s` alone. -/
inductive IsUnit : List Char → Prop
  | two {a b} (ha : a.toLower = 'n' ∨ a.toLower = 'u' ∨ a.toLower = 'm') (hb : b.toLower = 's') :
      IsUnit [a, b]
  | one {a} (ha : a.toLower = 's') : IsUnit [a]

theorem Names.map_toLower {u : List Char} {unit : TimeUnit} (h : Names u unit) :
    (u.map plainMicro).map Char.toLower = unit.name.toList := by
  have hplain : ∀ name ∈ unitNames unit, name.map plainMicro = unit.name.toList := by
    cases unit <;> decide
  rw [← hplain _ h, List.map_map, List.map_map]
  exact List.map_congr_left fun c _ => toLower_plainMicro c

theorem isUnit_of_map_toLower {u : List Char} {unit : TimeUnit}
    (h : u.map Char.toLower = unit.name.toList) : IsUnit u := by
  have htwo {x : Char} (hx : x = 'n' ∨ x = 'u' ∨ x = 'm') (hu : u.map Char.toLower = [x, 's']) :
      IsUnit u := by
    obtain ⟨a, t, rfl, rfl, ht⟩ := List.map_eq_cons_iff.mp hu
    obtain ⟨b, t, rfl, hb, hnil⟩ := List.map_eq_cons_iff.mp ht
    rw [List.map_eq_nil_iff.mp hnil]
    exact .two hx hb
  cases unit with
  | ns => exact htwo (.inl rfl) h
  | us => exact htwo (.inr (.inl rfl)) h
  | ms => exact htwo (.inr (.inr rfl)) h
  | s =>
    obtain ⟨a, t, rfl, ha, hnil⟩ := List.map_eq_cons_iff.mp h
    rw [List.map_eq_nil_iff.mp hnil]
    exact .one ha

theorem Names.isUnit {u : List Char} {unit : TimeUnit} (h : Names u unit) :
    IsUnit (u.map plainMicro) :=
  isUnit_of_map_toLower h.map_toLower

theorem Names.ofAnyCase?_eq {u : List Char} {unit : TimeUnit} (h : Names u unit) :
    TimeUnit.ofAnyCase? (u.map plainMicro) = some unit := by
  rw [TimeUnit.ofAnyCase?, h.map_toLower, String.ofList_toList]
  cases unit <;> decide

theorem isLetterS_of_toLower {c : Char} (h : c.toLower = 's') : isLetterS c = true := by
  have hc : c = 's' ∨ c = 'S' := eq_or_eq_of_toLower h rfl
  rcases hc with rfl | rfl <;> rfl

/-- A unit is no shorter one: where two letters fit, the second one alone is not tried. -/
theorem IsUnit.unit?_append {u q : List Char} (h : IsUnit u) (hq : endsWord q = true) :
    unit? (u ++ q) = some (u, q) := by
  cases h with
  | two ha hb =>
    rw [List.cons_append, List.cons_append, List.nil_append, unit?,
      if_pos ⟨ha, isLetterS_of_toLower hb⟩, if_pos hq]
  | one ha =>
    have hs := isLetterS_of_toLower ha
    cases q with
    | nil => exact if_pos hs
    | cons c q =>
      rw [List.cons_append, List.nil_append, unit?, ha, if_neg (by simp), if_pos ⟨hs, hq⟩]

theorem IsUnit.head {u : List Char} (h : IsUnit u) (s : List Char) :
    ∀ c ∈ (u ++ s).head?,
      isBlank c = false ∧ isDecimal c = false ∧ c ≠ '.' ∧ c ≠ 'e' ∧ c ≠ 'E' := by
  cases h with
  | @two a b ha _ =>
    rintro _ ⟨rfl⟩
    have hcase : (a = 'n' ∨ a = 'N') ∨ (a = 'u' ∨ a = 'U') ∨ a = 'm' ∨ a = 'M' :=
      ha.imp (eq_or_eq_of_toLower · rfl) (Or.imp (eq_or_eq_of_toLower · rfl)
        (eq_or_eq_of_toLower · rfl))
    rcases hcase with (rfl | rfl) | (rfl | rfl) | rfl | rfl <;> decide
  | @one a ha =>
    rintro _ ⟨rfl⟩
    have hcase : a = 's' ∨ a = 'S' := eq_or_eq_of_toLower ha rfl
    rcases hcase with rfl | rfl <;> decide

theorem IsUnit.endsNumeral {u w : List Char} (h : IsUnit u) (hw : AllBlank w) (s : List Char) :
    EndsNumeral (w ++ (u ++ s)) := by
  cases w with
  | nil => exact fun c hc => (h.head s c hc).2
  | cons b w =>
    rintro _ ⟨rfl⟩
    have hb := hw b List.mem_cons_self
    have hne {c : Char} (hc : isBlank c = false) : b ≠ c := by
      rintro rfl
      rw [hb] at hc
      cases hc
    refine ⟨?_, hne (by decide), hne (by decide), hne (by decide)⟩
    apply Bool.eq_false_iff.mpr
    intro hdec
    exact hne (isBlank_of_isDecimal hdec) rfl

theorem token?_append {d w u q : List Char} {n : Numeral} (hd : n.Written d) (hw : AllBlank w)
    (hu : IsUnit u) (hq : endsWord q = true) :
    token? (d ++ (w ++ (u ++ q))) = some ((d, u), q) := by
  have hskip : skipBlanks (w ++ (u ++ q)) = u ++ q := by
    rw [skipBlanks, trimStart_append_of_allBlank hw]
    exact trimStart_of_head fun c hc => (hu.head q c hc).1
  rw [token?, numeral?_append hd (hu.endsNumeral hw q)]
  simp only [Option.bind_eq_bind, Option.bind_some, hskip, hu.unit?_append hq]
  rfl

theorem map_plainMicro {s : List Char} (h : 'µ' ∉ s ∧ 'μ' ∉ s) : s.map plainMicro = s := by
  have hsame : s.map plainMicro = s.map id := by
    apply List.map_congr_left
    intro c hc
    exact plainMicro_of_ne ⟨fun he => h.1 (he ▸ hc), fun he => h.2 (he ▸ hc)⟩
  rw [hsame, List.map_id]

theorem NoNumeral.map_plainMicro {v : List Char} (h : NoNumeral v) :
    NoNumeral (v.map plainMicro) where
  notDecimal := by
    intro x hx
    obtain ⟨c, hc, rfl⟩ := List.mem_map.mp hx
    rcases plainMicro_cases c with ⟨_, hu⟩ | ⟨_, hu⟩
    · rw [hu]
      decide
    · rw [hu]
      exact h.notDecimal c hc
  last := by
    intro x hx
    rw [List.getLast?_map] at hx
    obtain ⟨c, hc, rfl⟩ := Option.map_eq_some_iff.mp hx
    rcases plainMicro_cases c with ⟨_, hu⟩ | ⟨_, hu⟩
    · rw [hu]
      decide
    · rw [hu]
      exact h.last c hc

theorem endsWord_map_plainMicro {q : List Char} (h : ∀ c ∈ q.head?, isWord c = false) :
    endsWord (q.map plainMicro) = true := by
  cases q with
  | nil => rfl
  | cons c q =>
    have hc := h c rfl
    have hmicro : isWord 'µ' = true ∧ isWord 'μ' = true := by decide +kernel
    rcases plainMicro_cases c with ⟨rfl | rfl, _⟩ | ⟨_, hu⟩
    · rw [hmicro.1] at hc
      cases hc
    · rw [hmicro.2] at hc
      cases hc
    · rw [List.map_cons, hu, endsWord_cons, hc]
      rfl

/-- A numeral with a unit is read as a whole wherever it stands: from its sign to its exponent, and
with all letters of the unit. -/
theorem nanosOfText_token {p d w u q : List Char} {n : Numeral} {unit : TimeUnit}
    (hp : NoNumeral p) (hd : n.Written d) (hw : AllBlank w) (hu : Names u unit)
    (hq : ∀ c ∈ q.head?, isWord c = false) :
    readFloat? d = some n.toFloat ∧
      leftmost? token? ((p ++ d ++ w ++ u ++ q).map plainMicro) =
        some ⟨p.map plainMicro, (d, u.map plainMicro), q.map plainMicro⟩ ∧
      nanosOfText (p ++ d ++ w ++ u ++ q) = n.toFloat * unit.nanos := by
  have hread := hd.readFloat?_eq
  have hplain : (p ++ d ++ w ++ u ++ q).map plainMicro =
      p.map plainMicro ++ (d ++ (w ++ (u.map plainMicro ++ q.map plainMicro))) := by
    have hd' : d.map plainMicro = d :=
      map_plainMicro ⟨hd.notMem (by decide) (by decide), hd.notMem (by decide) (by decide)⟩
    have hw' : w.map plainMicro = w :=
      map_plainMicro ⟨hw.notMem (by decide), hw.notMem (by decide)⟩
    simp only [List.map_append, hd', hw', List.append_assoc]
  have htoken := token?_append hd hw hu.isUnit (endsWord_map_plainMicro hq)
  have hnone (v : List Char) (hne : v ≠ []) (hv : v <:+ p.map plainMicro) :=
    (hp.map_plainMicro.suffix hv hne).token?_eq_none hne
      (d ++ (w ++ (u.map plainMicro ++ q.map plainMicro)))
  have hleftmost : leftmost? token? ((p ++ d ++ w ++ u ++ q).map plainMicro) =
      some ⟨p.map plainMicro, (d, u.map plainMicro), q.map plainMicro⟩ :=
    Text.leftmost?_eq_some_iff.mpr ⟨_, hplain, htoken, hnone⟩
  refine ⟨hread, hleftmost, ?_⟩
  rw [nanosOfText, hleftmost]
  simp only [hread, hu.ofAnyCase?_eq]

/-- The text in front ends like a unit, and what follows the unit looks like another duration. -/
theorem nanosOfText_token_exponent :
    readFloat? "-2.50E+1".toList = some (Numeral.toFloat ⟨true, 250, -1⟩) ∧
      nanosOfText "μ. +e (ms)-2.50E+1\t µS/5 s".toList =
        Numeral.toFloat ⟨true, 250, -1⟩ * TimeUnit.us.nanos := by
  have hdigits (ds : List Char) (h : ds.all Char.isDigit = true) : AllDigits ds :=
    List.all_eq_true.mp h
  have hplain : "μ. +e (ms)".toList.all (!isDecimal ·) = true := by decide
  have hp : NoNumeral "μ. +e (ms)".toList := by
    refine ⟨fun c hc => (Bool.not_eq_true' _).mp (List.all_eq_true.mp hplain c hc), ?_⟩
    rintro _ ⟨rfl⟩
    decide
  have hm : IsMantissa ['2', '.', '5', '0'] ['2', '5', '0'] 2 :=
    .point (by decide) (hdigits ['2'] rfl) (hdigits ['5', '0'] rfl)
  have he : IsExponent ['E', '+', '1'] 1 :=
    .mk (.inr rfl) .plus (by decide) (hdigits ['1'] rfl)
  have hd : Numeral.Written "-2.50E+1".toList ⟨true, 250, -1⟩ := .mk .minus hm he
  have hw : AllBlank ['\t', ' '] := List.all_eq_true.mp (by decide)
  have hu : ['µ', 'S'].map Char.toLower ∈ unitNames .us := by decide
  have hq : ∀ c ∈ "/5 s".toList.head?, isWord c = false := by
    rintro _ ⟨rfl⟩
    decide
  obtain ⟨hread, _, hnanos⟩ := nanosOfText_token hp hd hw hu hq
  exact ⟨hread, hnanos⟩

end BenchCharts.Duration

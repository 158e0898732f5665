import BenchCharts.Chart.AxisText
import BenchCharts.Proofs.Decimal.Denoted
import Mathlib.Order.Monotone.Odd

/-!
The numbers that the texts along an axis denote. They are in the order of the values and have their
signs, and no text has a fraction that ends in a zero.
-/

namespace BenchCharts.Chart

open Decimal

section Trimming

/-- Behind each point of a text stand digits, and the last of these is no zero. -/
def FractionsTrimmed (text : List Char) : Prop :=
  ∀ whole rest, text = whole ++ '.' :: rest →
    ∃ c, (rest.takeWhile Char.isDigit).getLast? = some c ∧ c ≠ '0'

theorem exists_zeros (fs : List Char) :
    ∃ front k, fs = front ++ List.replicate k '0' ∧ ∀ c ∈ front.getLast?, c ≠ '0' := by
  induction fs using List.reverseRecOn with
  | nil => exact ⟨[], 0, rfl, nofun⟩
  | append_singleton fs c ih =>
    by_cases hc : c = '0'
    · obtain ⟨front, k, rfl, hlast⟩ := ih
      exact ⟨front, k + 1, by rw [hc, List.replicate_succ', List.append_assoc], hlast⟩
    · refine ⟨fs ++ [c], 0, (List.append_nil _).symm, fun d hd => ?_⟩
      rw [List.getLast?_concat] at hd
      exact Option.some.inj hd ▸ hc

theorem trimFraction_of_notMem {s : List Char} (h : '.' ∉ s) : trimFraction s = s := by
  rw [trimFraction, if_neg (mt List.contains_iff_mem.mp h)]

theorem trimFraction_append (ds : List Char) {fs : List Char} (hf : AllDigits fs)
    (hlast : ∀ c ∈ fs.getLast?, c ≠ '0') (k : Nat) :
    trimFraction (ds ++ '.' :: (fs ++ List.replicate k '0')) = ds ++ fractionText fs := by
  have hcontains : (ds ++ '.' :: (fs ++ List.replicate k '0')).contains '.' = true :=
    List.contains_iff_mem.mpr (List.mem_append_right _ List.mem_cons_self)
  have hzeros : ∀ c ∈ List.replicate k '0', (c == '0') = true :=
    fun c hc => beq_iff_eq.mpr (List.eq_of_mem_replicate hc)
  have hreverse : (ds ++ '.' :: (fs ++ List.replicate k '0')).reverse =
      List.replicate k '0' ++ (fs.reverse ++ '.' :: ds.reverse) := by
    simp [List.append_assoc]
  rw [trimFraction, if_pos hcontains, hreverse]
  rcases List.eq_nil_or_concat' fs with rfl | ⟨fs, c, rfl⟩
  · have hhead : ∀ c ∈ ('.' :: ds.reverse).head?, (c == '0') = false := by
      rintro _ ⟨rfl⟩
      rfl
    rw [List.reverse_nil, List.nil_append, (Text.span_append hzeros hhead).2]
    simp [fractionText]
  · -- the last digit is no point, so none is dropped
    have hzero : c ≠ '0' := hlast c List.getLast?_concat
    have hpoint : c ≠ '.' := ne_of_isDigit (hf c (List.mem_append_right _ List.mem_cons_self)) rfl
    have hhead : ∀ d ∈ ((fs ++ [c]).reverse ++ '.' :: ds.reverse).head?, (d == '0') = false := by
      rw [List.reverse_append]
      rintro _ ⟨rfl⟩
      exact beq_eq_false_iff_ne.mpr hzero
    rw [(Text.span_append hzeros hhead).2]
    simp [fractionText, hpoint]

theorem trimFraction_fractionText {ds fs : List Char} (hd : '.' ∉ ds) (hf : AllDigits fs)
    (hlast : ∀ c ∈ fs.getLast?, c ≠ '0') (k : Nat) :
    trimFraction (ds ++ fractionText (fs ++ List.replicate k '0')) = ds ++ fractionText fs := by
  by_cases hne : fs ++ List.replicate k '0' = []
  · obtain ⟨rfl, hk⟩ := List.append_eq_nil_iff.mp hne
    rw [hk, List.append_nil, fractionText, if_pos rfl, List.append_nil]
    exact trimFraction_of_notMem hd
  · rw [fractionText, if_neg hne]
    exact trimFraction_append ds hf hlast k

theorem fractionsTrimmed_of_notMem {text : List Char} (h : '.' ∉ text) : FractionsTrimmed text := by
  rintro whole rest rfl
  exact absurd (List.mem_append_right _ List.mem_cons_self) h

/-- What stands behind the last digit of a fraction, such as a unit, is no digit. -/
theorem fractionsTrimmed_append {front fs back : List Char} (hfront : '.' ∉ front)
    (hf : AllDigits fs) (hlast : ∀ c ∈ fs.getLast?, c ≠ '0') (hback : '.' ∉ back)
    (hhead : ∀ c ∈ back.head?, c.isDigit = false) :
    FractionsTrimmed (front ++ (fractionText fs ++ back)) := by
  by_cases hne : fs = []
  · rw [fractionText, if_pos hne]
    exact fractionsTrimmed_of_notMem fun h => (List.mem_append.mp h).elim hfront hback
  · rw [fractionText, if_neg hne]
    intro whole rest h
    have hrest : '.' ∉ fs ++ back := fun hm => (List.mem_append.mp hm).elim (hf.notMem rfl) hback
    obtain ⟨-, -, rfl⟩ := (List.append_cons_inj_of_notMem hfront hrest).mp h
    have hget : fs.getLast? = some (fs.getLast hne) := List.getLast?_eq_some_getLast hne
    refine ⟨_, ?_, hlast _ hget⟩
    rw [(Text.span_append hf hhead).1, hget]

end Trimming

section Numbers

/-- The number that an axis text denotes; `k` and `M` stand for thousands and millions. -/
def axisNumber? (text : List Char) : Option Rat :=
  match text.getLast? with
  | some 'k' => (readNumeral? text.dropLast).map (·.value * 1000)
  | some 'M' => (readNumeral? text.dropLast).map (·.value * 1000000)
  | _ => (readNumeral? text).map (·.value)

/-- What stands behind the numeral of an axis text, and by what it multiplies. -/
inductive UnitText : List Char → Rat → Prop
  | ones : UnitText [] 1
  | thousands : UnitText ['k'] 1000
  | millions : UnitText ['M'] 1000000

theorem UnitText.notMem {unit : List Char} {factor : Rat} (h : UnitText unit factor) :
    '.' ∉ unit := by
  cases h <;> decide

theorem UnitText.isDigit_head {unit : List Char} {factor : Rat} (h : UnitText unit factor) :
    ∀ c ∈ unit.head?, c.isDigit = false := by
  cases h with
  | ones => exact nofun
  | thousands => rintro _ ⟨rfl⟩; rfl
  | millions => rintro _ ⟨rfl⟩; rfl

theorem axisNumber?_append {text unit : List Char} {n : Numeral} {factor : Rat} (h : n.Written text)
    (hu : UnitText unit factor) : axisNumber? (text ++ unit) = some (n.value * factor) := by
  cases hu with
  | ones =>
    have hk : 'k' ∉ text := h.notMem rfl (by decide)
    have hM : 'M' ∉ text := h.notMem rfl (by decide)
    rw [List.append_nil, axisNumber?, h.readNumeral?_eq, mul_one]
    split
    · next hlast => exact absurd (List.mem_of_getLast? hlast) hk
    · next hlast => exact absurd (List.mem_of_getLast? hlast) hM
    · rfl
  | thousands =>
    rw [axisNumber?, List.getLast?_concat, List.dropLast_concat, h.readNumeral?_eq]
    rfl
  | millions =>
    rw [axisNumber?, List.getLast?_concat, List.dropLast_concat, h.readNumeral?_eq]
    rfl

theorem notMem_signText (negative : Bool) : '.' ∉ signText negative :=
  (isSign_signText negative).notMem (by decide) (by decide)

/-- A text is a numeral of a number, and its fraction is trimmed whatever unit stands behind it. -/
structure Denotes (text : List Char) (value : Rat) : Prop where
  written : ∃ n : Numeral, n.Written text ∧ n.value = value
  trimmed : ∀ unit factor, UnitText unit factor → FractionsTrimmed (text ++ unit)

theorem denotes_fixed (places : Nat) (negative : Bool) (q : Rat) :
    Denotes (trimFraction (fixed places negative q)) (signed negative (roundTo (-places) q)) := by
  obtain ⟨ds, fs, hne, hd, hf, hlength, htext, hvalue⟩ := exists_fixed places negative q
  obtain ⟨front, k, rfl, hlast⟩ := exists_zeros fs
  have hfront : AllDigits front := fun c hc => hf c (List.mem_append_left _ hc)
  have hpoint : '.' ∉ signText negative ++ ds := fun h =>
    (List.mem_append.mp h).elim (notMem_signText negative) (hd.notMem rfl)
  have htrim : trimFraction (fixed places negative q) =
      signText negative ++ (ds ++ fractionText front) := by
    rw [htext, ← List.append_assoc, trimFraction_fractionText hpoint hfront hlast,
      List.append_assoc]
  have hround : (valueOfDigits (ds ++ front) : Rat) * 10 ^ (0 - (front.length : Int)) =
      roundTo (-places) q := by
    rw [List.length_append, List.length_replicate] at hlength
    rw [← hvalue, ← hlength, ← List.append_assoc, fraction_append_zeros, zero_sub]
  rw [htrim]
  constructor
  · have h := Numeral.Written.mk (isSign_signText negative)
      (isMantissa_fractionText hne hd hfront) .none
    rw [List.append_nil] at h
    refine ⟨_, h, congrArg (signed negative) hround⟩
  · intro unit factor hu
    rw [← List.append_assoc, List.append_assoc]
    exact fractionsTrimmed_append hpoint hfront hlast hu.notMem hu.isDigit_head

theorem trimFraction_fixed_zero (negative : Bool) (q : Rat) :
    trimFraction (fixed 0 negative q) = fixed 0 negative q := by
  obtain ⟨ds, fs, -, hd, -, hlength, htext, -⟩ := exists_fixed 0 negative q
  apply trimFraction_of_notMem
  rw [htext, List.length_eq_zero_iff.mp hlength]
  intro h
  rcases List.mem_append.mp h with h | h
  · exact notMem_signText negative h
  · exact hd.notMem rfl (List.append_nil ds ▸ h)

theorem denotes_zero : Denotes ['0'] 0 where
  written := by
    have hzero : AllDigits ['0'] := List.forall_mem_singleton.mpr rfl
    refine ⟨_, .mk .none (.whole (List.cons_ne_nil _ _) hzero) .none, ?_⟩
    exact (congrArg (signed false) (zero_mul _)).trans rfl
  trimmed := by
    intro unit factor hu
    apply fractionsTrimmed_of_notMem
    simp [hu.notMem]

theorem denotes_scientific (negative : Bool) {q : Rat} (hq : 0 < q) :
    Denotes (scientific 0 negative q) (signed negative (roundTo (leadingPower q) q)) := by
  obtain ⟨n, power, htext, hvalue⟩ := exists_scientific negative hq
  rw [htext, ← hvalue]
  constructor
  · refine ⟨_, .mk (isSign_signText negative) (.whole (digits_ne_nil n) (allDigits_digits n))
      (isExponent_integerText power), ?_⟩
    rw [Numeral.value, valueOfDigits_digits, Nat.cast_zero, sub_zero]
  · intro unit factor hu
    apply fractionsTrimmed_of_notMem
    have hdigits (n : Nat) : '.' ∉ digits n := (allDigits_digits n).notMem rfl
    have hpower : '.' ∉ integerText power := by
      unfold integerText
      split <;> simp [hdigits]
    simp [notMem_signText, hdigits, hpower, hu.notMem]

theorem Denotes.axisNumber?_append {text unit : List Char} {value factor : Rat}
    (h : Denotes text value) (hu : UnitText unit factor) :
    axisNumber? (text ++ unit) = some (value * factor) ∧ FractionsTrimmed (text ++ unit) := by
  obtain ⟨⟨n, hn, rfl⟩, htrimmed⟩ := h
  exact ⟨Chart.axisNumber?_append hn hu, htrimmed _ _ hu⟩

theorem Denotes.axisNumber?_eq {text : List Char} {value : Rat} (h : Denotes text value) :
    axisNumber? text = some value ∧ FractionsTrimmed text := by
  have hones := h.axisNumber?_append .ones
  rwa [List.append_nil, mul_one] at hones

end Numbers

section Bands

/-- The power of ten where the numbers begin that are written like those with the given one at their
first digit. -/
def bandStart (power : Int) : Int :=
  if 6 ≤ power then 6
  else if 4 ≤ power then 4
  else if 2 ≤ power then 2
  else if 0 ≤ power then 0
  else if -3 ≤ power then -3
  else power

/-- The power of ten at the last digit that is written of these numbers. -/
def bandPlace (power : Int) : Int :=
  if 6 ≤ power then 5
  else if 4 ≤ power then 2
  else if 2 ≤ power then 0
  else if 0 ≤ power then -1
  else if -3 ≤ power then -3
  else power

theorem bandStart_le (power : Int) : bandStart power ≤ power := by
  unfold bandStart
  split_ifs <;> omega

theorem bandPlace_le_bandStart (power : Int) : bandPlace power ≤ bandStart power := by
  unfold bandPlace bandStart
  split_ifs <;> omega

/-- Two numbers are written in the same way, or the band of the greater begins above the other. -/
theorem bandPlace_eq_or_lt {p r : Int} (h : p ≤ r) :
    bandPlace p = bandPlace r ∨ p < bandStart r := by
  unfold bandPlace bandStart
  split_ifs <;> omega

def shownMagnitude (q : Rat) : Rat :=
  roundTo (bandPlace (leadingPower q)) q

theorem shownMagnitude_zero : shownMagnitude 0 = 0 :=
  roundTo_zero

theorem zpow_bandStart_le {q : Rat} (hq : 0 < q) : 10 ^ bandStart (leadingPower q) ≤ q :=
  (zpow_le_iff_le_leadingPower hq _).mpr (bandStart_le _)

theorem shownMagnitude_pos {q : Rat} (hq : 0 < q) : 0 < shownMagnitude q :=
  calc (0 : Rat) < 10 ^ bandStart (leadingPower q) := by positivity
    _ ≤ shownMagnitude q := le_roundTo (bandPlace_le_bandStart _) (zpow_bandStart_le hq)

theorem shownMagnitude_mono {q r : Rat} (hq : 0 ≤ q) (h : q ≤ r) :
    shownMagnitude q ≤ shownMagnitude r := by
  rcases hq.eq_or_lt with rfl | hq
  · rcases h.eq_or_lt with rfl | hr
    · exact le_rfl
    · exact shownMagnitude_zero.trans_le (shownMagnitude_pos hr).le
  · have hr := hq.trans_le h
    have hpower : leadingPower q ≤ leadingPower r := by
      rw [← zpow_le_iff_le_leadingPower hr]
      exact ((zpow_le_iff_le_leadingPower hq _).mpr le_rfl).trans h
    rcases bandPlace_eq_or_lt hpower with heq | hlt
    · unfold shownMagnitude
      rw [heq]
      exact roundTo_mono hq.le h
    · -- where the band of the greater begins, neither of the two places has anything to round
      have hplace : bandPlace (leadingPower q) ≤ bandStart (leadingPower r) :=
        ((bandPlace_le_bandStart _).trans (bandStart_le _)).trans hlt.le
      calc shownMagnitude q ≤ 10 ^ bandStart (leadingPower r) :=
            roundTo_le hplace hq.le ((lt_zpow_iff_leadingPower_lt hq _).mpr hlt).le
        _ ≤ shownMagnitude r := le_roundTo (bandPlace_le_bandStart _) (zpow_bandStart_le hr)

theorem signed_mul (negative : Bool) (q r : Rat) :
    signed negative q * r = signed negative (q * r) := by
  cases negative with
  | false => rfl
  | true => exact neg_mul q r

theorem magnitudeText_zero (negative : Bool) (thousands millions : Rat) :
    magnitudeText negative 0 thousands millions = ['0'] := by
  norm_num [magnitudeText]

theorem axisNumber?_magnitudeText (negative : Bool) {q : Rat} (hq : 0 ≤ q) :
    axisNumber? (magnitudeText negative q (q / 1000) (q / 1000000)) =
        some (signed negative (shownMagnitude q)) ∧
      FractionsTrimmed (magnitudeText negative q (q / 1000) (q / 1000000)) := by
  rcases hq.eq_or_lt with rfl | hq
  · have hsigned : signed negative 0 = 0 := by cases negative <;> rfl
    rw [magnitudeText_zero, shownMagnitude_zero, hsigned]
    exact denotes_zero.axisNumber?_eq
  · have hband (border : Rat) (power : Int) (h : border = 10 ^ power) :
        border ≤ q ↔ power ≤ leadingPower q := h ▸ zpow_le_iff_le_leadingPower hq power
    have hmillions : roundTo (-(1 : Nat)) (q / 1000000) * 1000000 = roundTo 5 q :=
      roundTo_shift (-1) 6 q
    have hthousands : roundTo (-(1 : Nat)) (q / 1000) * 1000 = roundTo 2 q :=
      roundTo_shift (-1) 3 q
    unfold magnitudeText shownMagnitude bandPlace
    simp only [hband 1000000 6 (by norm_num), hband 10000 4 (by norm_num),
      hband 100 2 (by norm_num), hband 1 0 (by norm_num), hband (1 / 1000) (-3) (by norm_num)]
    rw [if_neg hq.ne']
    split_ifs
    · rw [← hmillions, ← signed_mul]
      exact (denotes_fixed 1 negative _).axisNumber?_append .millions
    · rw [← hthousands, ← signed_mul]
      exact (denotes_fixed 1 negative _).axisNumber?_append .thousands
    · rw [← trimFraction_fixed_zero]
      exact (denotes_fixed 0 negative q).axisNumber?_eq
    · exact (denotes_fixed 1 negative q).axisNumber?_eq
    · exact (denotes_fixed 3 negative q).axisNumber?_eq
    · exact (denotes_scientific negative hq).axisNumber?_eq

end Bands

section Signed

def shownNumber (v : Rat) : Rat :=
  signed (decide (v < 0)) (shownMagnitude |v|)

theorem shownNumber_of_nonneg {v : Rat} (h : 0 ≤ v) : shownNumber v = shownMagnitude v := by
  rw [shownNumber, abs_of_nonneg h, decide_eq_false (not_lt.mpr h)]
  rfl

theorem shownNumber_neg (v : Rat) : shownNumber (-v) = -shownNumber v := by
  rcases lt_trichotomy v 0 with h | rfl | h
  · rw [shownNumber, shownNumber, abs_neg, decide_eq_true h,
      decide_eq_false (not_lt.mpr (neg_pos.mpr h).le)]
    exact (neg_neg _).symm
  · rw [neg_zero, shownNumber_of_nonneg le_rfl, shownMagnitude_zero, neg_zero]
  · rw [shownNumber, shownNumber, abs_neg, decide_eq_true (neg_neg_iff_pos.mpr h),
      decide_eq_false (not_lt.mpr h.le)]
    rfl

theorem shownNumber_signed (negative : Bool) {q : Rat} (hq : 0 ≤ q) :
    shownNumber (signed negative q) = signed negative (shownMagnitude q) := by
  cases negative with
  | false => exact shownNumber_of_nonneg hq
  | true => exact (shownNumber_neg q).trans (congrArg _ (shownNumber_of_nonneg hq))

theorem shownNumber_monotone : Monotone shownNumber := by
  refine monotone_of_odd_of_monotoneOn_nonneg shownNumber_neg fun v hv w hw h => ?_
  rw [shownNumber_of_nonneg hv, shownNumber_of_nonneg hw]
  exact shownMagnitude_mono hv h

theorem shownNumber_pos {v : Rat} (h : 0 < v) : 0 < shownNumber v :=
  (shownMagnitude_pos h).trans_eq (shownNumber_of_nonneg h.le).symm

theorem compare_shownNumber_zero (v : Rat) : compare (shownNumber v) 0 = compare v 0 := by
  rcases lt_trichotomy v 0 with h | rfl | h
  · have hneg : shownNumber v < 0 := by
      rw [← neg_pos, ← shownNumber_neg]
      exact shownNumber_pos (neg_pos.mpr h)
    rw [compare_lt_iff_lt.mpr h, compare_lt_iff_lt.mpr hneg]
  · rw [shownNumber_of_nonneg le_rfl, shownMagnitude_zero]
  · rw [compare_gt_iff_gt.mpr h, compare_gt_iff_gt.mpr (shownNumber_pos h)]

end Signed

/-- The text of a double if its thousands and millions are not rounded. -/
def exactAxisText (x : Float) : List Char :=
  match Exact.ofFloat x with
  | .finite negative q => magnitudeText negative q (q / 1000) (q / 1000000)
  | _ => axisText x

/-- The quotient that is written of a double, in thousands or millions, is not rounded. -/
structure QuotientExact (x : Float) : Prop where
  thousands : 10000 ≤ magnitude x → magnitude x < 1000000 →
    magnitude (x / 1000.0) = magnitude x / 1000
  millions : 1000000 ≤ magnitude x → magnitude (x / 1000000.0) = magnitude x / 1000000

theorem axisText_eq_exactAxisText {x : Float} (h : QuotientExact x) :
    axisText x = exactAxisText x := by
  obtain ⟨hk, hM⟩ := h
  unfold exactAxisText
  split
  · next negative q hx =>
    have hq : magnitude x = q := by simp only [magnitude, hx]
    rw [hq] at hk hM
    simp only [axisText, hx, magnitudeText]
    split
    · next hmillions => rw [hM hmillions]
    · next hbelow =>
      split
      · next hthousands => rw [hk hthousands (not_le.mp hbelow)]
      · rfl
  · rfl

theorem quotientExact_of_lt {x : Float} (h : magnitude x < 10000) : QuotientExact x where
  thousands hk := absurd hk (not_le.mpr h)
  millions hM := absurd hM (not_le.mpr (h.trans (by norm_num)))

theorem axisNumber?_exactAxisText {x : Float} (h : x.isFinite = true) :
    axisNumber? (exactAxisText x) = some (shownNumber (valueOf x)) ∧
      FractionsTrimmed (exactAxisText x) := by
  obtain ⟨negative, q, hq, hx⟩ := Exact.exists_ofUnpacked_eq h
  rw [← Exact.ofFloat_eq] at hx
  have hvalue : valueOf x = signed negative q := congrArg Exact.value hx
  rw [hvalue, shownNumber_signed negative hq, exactAxisText, hx]
  exact axisNumber?_magnitudeText negative hq

/-- With thousands and millions that are not rounded, the numbers along an axis are in the order of
the values and have their signs, and the texts have no zeros at the end of a fraction and no point
without one. This is the text as it is wherever the quotient that is written is exact, and below ten
thousand there is none. -/
theorem axisText_keeps_order :
    (∀ x : Float, x.isFinite = true → ∃ n, axisNumber? (exactAxisText x) = some n ∧
      (n < 0 ↔ x < 0.0) ∧ (n = 0 ↔ (x == 0.0) = true) ∧ (0 < n ↔ 0.0 < x) ∧
      FractionsTrimmed (exactAxisText x)) ∧
    (∀ a b : Float, a.isFinite = true → b.isFinite = true → a ≤ b →
      ∃ m n, axisNumber? (exactAxisText a) = some m ∧ axisNumber? (exactAxisText b) = some n ∧
        m ≤ n) ∧
    (∀ x : Float, magnitude x < 10000 → axisText x = exactAxisText x) ∧
    ∀ x : Float, QuotientExact x → axisText x = exactAxisText x := by
  refine ⟨fun x hx => ?_, fun a b ha hb h => ?_,
    fun x h => axisText_eq_exactAxisText (quotientExact_of_lt h),
    fun x h => axisText_eq_exactAxisText h⟩
  · obtain ⟨hnumber, htrimmed⟩ := axisNumber?_exactAxisText hx
    have hsign := compare_shownNumber_zero (valueOf x)
    refine ⟨_, hnumber, ?_, ?_, ?_, htrimmed⟩
    · rw [lt_iff_valueOf_lt hx isFinite_zero, valueOf_zero, ← compare_lt_iff_lt, hsign,
        compare_lt_iff_lt]
    · rw [beq_iff_valueOf_eq hx isFinite_zero, valueOf_zero, ← compare_eq_iff_eq, hsign,
        compare_eq_iff_eq]
    · rw [lt_iff_valueOf_lt isFinite_zero hx, valueOf_zero, ← compare_gt_iff_gt, hsign,
        compare_gt_iff_gt]
  · exact ⟨_, _, (axisNumber?_exactAxisText ha).1, (axisNumber?_exactAxisText hb).1,
      shownNumber_monotone ((le_iff_valueOf_le ha hb).mp h)⟩

/-- Rounding carries the one into the next band, and the other up to where the next begins. -/
theorem axisText_keeps_order_carried :
    let a : Float := 9999.6
    let b : Float := 999999.9
    let c : Float := -2500000.0
    let x : Float := -0.00096
    exactAxisText a = "10000".toList ∧ exactAxisText b = "1000k".toList ∧
      exactAxisText x = "-1e-3".toList ∧
      (a.isFinite = true ∧ b.isFinite = true ∧ a ≤ b ∧ ∃ m n,
        axisNumber? (exactAxisText a) = some m ∧ axisNumber? (exactAxisText b) = some n ∧ m ≤ n) ∧
      (x.isFinite = true ∧ FractionsTrimmed (exactAxisText x)) ∧
      (magnitude a < 10000 ∧ axisText a = exactAxisText a) ∧
      QuotientExact c ∧ axisText c = exactAxisText c ∧ exactAxisText c = "-2.5M".toList := by
  intro a b c x
  have ha : a.isFinite = true := by decide +kernel
  have hb : b.isFinite = true := by decide +kernel
  have hx : x.isFinite = true := by decide +kernel
  have hab : a ≤ b := by decide +kernel
  have hsmall : magnitude a < 10000 := by decide +kernel
  have hc : QuotientExact c :=
    { thousands := fun _ hlt => absurd hlt (by decide +kernel)
      millions := fun _ => by decide +kernel }
  obtain ⟨hsigns, horder, hsame, hexact⟩ := axisText_keeps_order
  obtain ⟨n, -, -, -, -, htrimmed⟩ := hsigns x hx
  exact ⟨by decide +kernel, by decide +kernel, by decide +kernel,
    ⟨ha, hb, hab, horder a b ha hb hab⟩, ⟨hx, htrimmed⟩, ⟨hsmall, hsame a hsmall⟩, hc, hexact c hc,
    by decide +kernel⟩

end BenchCharts.Chart

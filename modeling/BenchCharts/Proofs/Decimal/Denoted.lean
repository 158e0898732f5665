import BenchCharts.Proofs.Decimal.Numeral
import BenchCharts.Proofs.Decimal.Rounding

/-!
The numbers that numerals denote, and what they are for the numerals that are written: a number with
decimal places and one in scientific notation denote the number rounded to their last place.
-/

namespace BenchCharts.Decimal

def Numeral.value (n : Numeral) : Rat :=
  signed n.negative (n.digits * 10 ^ n.exponent)

def readNumeral? (s : List Char) : Option Numeral :=
  readUnsigned? (readSign s).1 (readSign s).2

theorem Numeral.Written.readNumeral?_eq {s : List Char} {n : Numeral} (h : n.Written s) :
    readNumeral? s = some n := by
  obtain ⟨hs, hm, he⟩ := h
  rw [readNumeral?, hs.readSign_append (hm.startsUnsigned _), hm.readUnsigned?_append he]

theorem isSign_signText (negative : Bool) : IsSign (signText negative) negative := by
  cases negative with
  | false => exact .none
  | true => exact .minus

theorem allDigits_digits (n : Nat) : AllDigits (digits n) :=
  fun _ hc => isDigit_of_mem_digits hc

theorem digits_ne_nil (n : Nat) : digits n ≠ [] :=
  Nat.toDigits_ne_nil

theorem isExponent_integerText (e : Int) : IsExponent ('e' :: integerText e) e := by
  have h : IsExponent ('e' :: (signText (decide (e < 0)) ++ digits e.natAbs)) _ :=
    .mk (.inl rfl) (isSign_signText _) (digits_ne_nil _) (allDigits_digits _)
  rw [valueOfDigits_digits] at h
  unfold integerText
  by_cases hneg : e < 0
  · rw [if_pos hneg]
    have he : -(e.natAbs : Int) = e := by omega
    rw [decide_eq_true hneg, if_pos rfl, he] at h
    exact h
  · rw [if_neg hneg]
    have he : (e.natAbs : Int) = e := by omega
    rw [decide_eq_false hneg, if_neg Bool.false_ne_true, he] at h
    exact h

theorem valueOfDigits_append (ds es : List Char) :
    valueOfDigits (ds ++ es) = valueOfDigits ds * 10 ^ es.length + valueOfDigits es := by
  induction es using List.reverseRecOn with
  | nil => simp
  | append_singleton es e ih =>
    rw [← List.append_assoc, valueOfDigits_concat, ih, valueOfDigits_concat, List.length_append,
      List.length_singleton, pow_succ]
    ring

theorem valueOfDigits_zeros (k : Nat) : valueOfDigits (List.replicate k '0') = 0 := by
  induction k with
  | zero => rfl
  | succ k ih => rw [List.replicate_succ', valueOfDigits_concat, ih]; rfl

theorem fraction_append_zeros (ds : List Char) (places k : Nat) :
    (valueOfDigits (ds ++ List.replicate k '0') : Rat) * 10 ^ (-((places + k : Nat) : Int)) =
      valueOfDigits ds * 10 ^ (-(places : Int)) := by
  have hten : (10 : Rat) ≠ 0 := by norm_num
  rw [valueOfDigits_append, valueOfDigits_zeros, List.length_replicate, Nat.add_zero,
    Nat.cast_mul, Nat.cast_pow, Nat.cast_ofNat, ← zpow_natCast, mul_assoc, ← zpow_add₀ hten]
  congr 2
  omega

theorem length_paddedDigits {width n : Nat} (hw : 0 < width) (h : n < 10 ^ width) :
    (paddedDigits width n).length = width := by
  have hle := (Nat.length_toDigits_le_iff (by decide) hw).mpr h
  rw [paddedDigits, List.length_append, List.length_replicate, digits]
  omega

theorem valueOfDigits_paddedDigits (width n : Nat) : valueOfDigits (paddedDigits width n) = n := by
  rw [paddedDigits, valueOfDigits_append, valueOfDigits_zeros, valueOfDigits_digits, Nat.zero_mul,
    Nat.zero_add]

theorem allDigits_paddedDigits (width n : Nat) : AllDigits (paddedDigits width n) := by
  refine List.forall_mem_append.mpr ⟨fun c hc => ?_, allDigits_digits n⟩
  rw [List.eq_of_mem_replicate hc]
  rfl

def fractionText (fs : List Char) : List Char :=
  if fs = [] then [] else '.' :: fs

theorem isMantissa_fractionText {ds fs : List Char} (hne : ds ≠ []) (hd : AllDigits ds)
    (hf : AllDigits fs) : IsMantissa (ds ++ fractionText fs) (ds ++ fs) fs.length := by
  unfold fractionText
  split
  · next h =>
    subst h
    rw [List.append_nil]
    exact .whole hne hd
  · exact .point (List.append_ne_nil_of_left_ne_nil hne fs) hd hf

/-- A number with decimal places denotes the number rounded to the last of them. -/
theorem exists_fixed (places : Nat) (negative : Bool) (q : Rat) :
    ∃ ds fs, ds ≠ [] ∧ AllDigits ds ∧ AllDigits fs ∧ fs.length = places ∧
      fixed places negative q = signText negative ++ (ds ++ fractionText fs) ∧
      (valueOfDigits (ds ++ fs) : Rat) * 10 ^ (-(places : Int)) = roundTo (-places) q := by
  have hround : roundTo (-places) q =
      roundHalfEven (q * powTen places) * 10 ^ (-(places : Int)) := by
    rw [roundTo, neg_neg, powTen_eq]
  unfold fixed
  simp only [Nat.pow_eq]
  rw [hround]
  generalize roundHalfEven (q * powTen places) = n
  rcases Nat.eq_zero_or_pos places with rfl | hpos
  · refine ⟨digits n, [], digits_ne_nil n, allDigits_digits n, List.forall_mem_nil _, rfl, ?_, ?_⟩
    · rw [if_pos rfl, pow_zero, Nat.div_one, List.append_assoc]
      rfl
    · rw [List.append_nil, valueOfDigits_digits]
  · have hlength : (paddedDigits places (n % 10 ^ places)).length = places :=
      length_paddedDigits hpos (Nat.mod_lt _ (Nat.pow_pos (by decide)))
    have hne : paddedDigits places (n % 10 ^ places) ≠ [] :=
      List.ne_nil_of_length_pos (hpos.trans_eq hlength.symm)
    refine ⟨digits (n / 10 ^ places), paddedDigits places (n % 10 ^ places),
      digits_ne_nil _, allDigits_digits _, allDigits_paddedDigits _ _, hlength, ?_, ?_⟩
    · rw [if_neg hpos.ne', fractionText, if_neg hne, List.append_assoc]
    · rw [valueOfDigits_append, hlength, valueOfDigits_digits, valueOfDigits_paddedDigits,
        Nat.div_add_mod']

theorem exists_scientific (negative : Bool) {q : Rat} (hq : 0 < q) :
    ∃ (n : Nat) (power : Int),
      scientific 0 negative q = signText negative ++ (digits n ++ 'e' :: integerText power) ∧
      (n : Rat) * 10 ^ power = roundTo (leadingPower q) q := by
  have hscaled : q * powTen ((0 : Nat) - leadingPower q) = q * 10 ^ (-leadingPower q) := by
    rw [powTen_eq, Nat.cast_zero, zero_sub]
  have hle : roundHalfEven (q * 10 ^ (-leadingPower q)) ≤ 10 := by
    have hlt : q * 10 ^ (-leadingPower q) ≤ (10 : Nat) := by
      rw [leadingPower_eq hq, zpow_neg, ← div_eq_mul_inv, div_le_iff₀ (by positivity), mul_comm,
        Nat.cast_ofNat, ← zpow_add_one₀ (by norm_num)]
      exact (Int.lt_zpow_succ_log_self (b := 10) (by decide) q).le
    calc roundHalfEven (q * 10 ^ (-leadingPower q)) ≤ roundHalfEven (10 : Nat) :=
          roundHalfEven_mono (by positivity) hlt
      _ = 10 := roundHalfEven_natCast 10
  unfold scientific
  rw [if_neg hq.ne']
  simp only [Nat.pow_eq]
  rw [hscaled, roundTo]
  generalize roundHalfEven (q * 10 ^ (-leadingPower q)) = n at hle ⊢
  split
  · exact ⟨n, _, by simp, rfl⟩
  · next hn =>
    -- ten is written as one at the next power
    obtain rfl : n = 10 := by omega
    refine ⟨1, leadingPower q + 1, by simp, ?_⟩
    rw [zpow_add_one₀ (by norm_num)]
    push_cast
    ring

end BenchCharts.Decimal

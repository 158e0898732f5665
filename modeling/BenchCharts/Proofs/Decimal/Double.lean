import Mathlib.Algebra.Group.Int.Defs
import Mathlib.Algebra.Group.Nat.Defs
import Mathlib.Data.Nat.Log

/-!
Which operations on doubles give a number. A double is taken apart into sign, mantissa and exponent,
by which it is also compared; rounding keeps it finite, and a factor or divisor that is finite and
not zero neither makes nor hides what is not a number.
-/

namespace BenchCharts.Decimal

open Float.Model (Format UnpackedFloat totalExponent)
open Float.Model.UnpackedFloat

theorem le_iff_unpack {x y : Float} :
    x ≤ y ↔ UnpackedFloat.le x.toModel.unpack y.toModel.unpack = true :=
  decide_eq_true_iff

theorem lt_iff_unpack {x y : Float} :
    x < y ↔ UnpackedFloat.lt x.toModel.unpack y.toModel.unpack = true :=
  decide_eq_true_iff

theorem isNaN_unpack_packComponents {spec : Format} {s : Sign} {e : BitVec spec.exponentBits}
    {m : BitVec spec.mantissaBitsWithoutImplicit} (h : e = -1#_ → m = 0#_) :
    (unpack spec (packComponents spec s e m)).isNaN = false := by
  unfold unpack
  dsimp only
  rw [unpackExponent_packComponents]
  by_cases he : e = -1#_
  · rw [if_pos he, unpackMantissa_packComponents, if_pos (h he)]
    rfl
  · rw [if_neg he]
    by_cases hz : e = 0#_
    · rw [if_pos hz]
      by_cases hm : unpackMantissa (packComponents spec s e m) = 0#_
      · rw [dif_pos hm]
        rfl
      · rw [dif_neg hm]
        rfl
    · rw [if_neg hz]
      rfl

theorem isNaN_unpack_pack (x : UnpackedFloat) :
    (unpack .binary64 (pack .binary64 x)).isNaN = x.isNaN := by
  cases x with
  | infinity s => cases s <;> rfl
  | notANumber => rfl
  | zero s => cases s <;> rfl
  | finite s m e hm =>
    change _ = false
    unfold pack
    dsimp only
    split
    · exact isNaN_unpack_packComponents fun _ => rfl
    · next he =>
      split
      · -- the exponent is small enough to leave one of its bits unset
        apply isNaN_unpack_packComponents
        intro h
        have hbits := congrArg BitVec.toNat h
        rw [BitVec.toNat_ofNat, BitVec.neg_one_eq_allOnes, BitVec.toNat_allOnes] at hbits
        omega
      · exact isNaN_unpack_packComponents fun h => absurd h (by decide)

theorem isNaN_zero_or_finite (s : Sign) (m : Nat) (e : Int) :
    (if h : m = 0 then UnpackedFloat.zero s
      else .finite s m e (Nat.pos_of_ne_zero h)).isNaN = false := by
  cases m <;> rfl

theorem isNaN_roundWithAccuracy (spec : Format) (s : Sign) (m : Nat) (e : Int) (a : Accuracy) :
    (roundWithAccuracy spec s m e a).isNaN = false :=
  isNaN_zero_or_finite ..

theorem isNaN_unpacked_div (x : UnpackedFloat) (s : Sign) (m : Nat) (e : Int) (hm : 0 < m) :
    (div .binary64 x (.finite s m e hm)).isNaN = x.isNaN := by
  cases x with
  | infinity => rfl
  | notANumber => rfl
  | zero => rfl
  | finite => exact isNaN_roundWithAccuracy ..

theorem isNaN_div_eq (x d : Float) :
    (x / d).isNaN = (div .binary64 x.toModel.unpack d.toModel.unpack).isNaN :=
  isNaN_unpack_pack _

theorem isNaN_div {d : Float} (h : ∃ s m e hm, d.toModel.unpack = .finite s m e hm) (x : Float) :
    (x / d).isNaN = x.isNaN := by
  obtain ⟨s, m, e, hm, hd⟩ := h
  rw [isNaN_div_eq, hd]
  exact isNaN_unpacked_div x.toModel.unpack s m e hm

theorem isNaN_unpacked_mul (x : UnpackedFloat) (s : Sign) (m : Nat) (e : Int) (hm : 0 < m) :
    (mul .binary64 x (.finite s m e hm)).isNaN = x.isNaN := by
  cases x with
  | infinity => rfl
  | notANumber => rfl
  | zero => rfl
  | finite => exact isNaN_roundWithAccuracy ..

theorem isNaN_mul_eq (x d : Float) :
    (x * d).isNaN = (mul .binary64 x.toModel.unpack d.toModel.unpack).isNaN :=
  isNaN_unpack_pack _

theorem isNaN_mul {d : Float} (h : ∃ s m e hm, d.toModel.unpack = .finite s m e hm) (x : Float) :
    (x * d).isNaN = x.isNaN := by
  obtain ⟨s, m, e, hm, hd⟩ := h
  rw [isNaN_mul_eq, hd]
  exact isNaN_unpacked_mul x.toModel.unpack s m e hm

section Rounding

theorem mantissa_shiftRight (em : ExtendedMantissa) (n : Nat) :
    (em >>> n).mantissa = em.mantissa / 2 ^ n := by
  induction n with
  | zero => exact (Nat.div_one _).symm
  | succ n ih =>
    have hstep : (em >>> (n + 1)).mantissa = (em >>> n).mantissa / 2 := rfl
    rw [hstep, ih, Nat.div_div_eq_div_mul, Nat.pow_succ]

theorem roundedMantissa_bounds (em : ExtendedMantissa) :
    em.mantissa ≤ em.roundedMantissa ∧ em.roundedMantissa ≤ em.mantissa + 1 := by
  obtain ⟨m, round, sticky⟩ := em
  have hodd : m % 2 < 2 := Nat.mod_lt _ (by decide)
  cases round <;> cases sticky <;>
    simp only [ExtendedMantissa.roundedMantissa, ExtendedMantissa.accuracy,
      Accuracy.roundToNearestEven] <;> omega

theorem mantissa_ofMantissaAndAccuracy (m : Nat) (a : Accuracy) :
    (ExtendedMantissa.ofMantissaAndAccuracy m a).mantissa = m := by
  cases a with
  | exact => rfl
  | inexact order => cases order <;> rfl

theorem targetExponent_of_normal {m : Nat} {e : Int} (he : -1022 ≤ m.log2 + e) :
    Format.binary64.targetExponent (totalExponent m e) = m.log2 + e - 52 := by
  have hbits : (Format.binary64.mantissaBits : Int) = 53 := rfl
  have hmin : Format.binary64.minExponent = -1074 := rfl
  rw [Format.targetExponent, totalExponent, hbits, hmin]
  omega

theorem shiftToTargetExponent_of_normal {m : Nat} {e : Int} (a : Accuracy) (hm : 2 ^ 52 ≤ m)
    (he : -1022 ≤ m.log2 + e) :
    (shiftToTargetExponent .binary64 m e a).1.mantissa = m / 2 ^ (m.log2 - 52) ∧
      (shiftToTargetExponent .binary64 m e a).2 = m.log2 + e - 52 := by
  have hlog : 52 ≤ m.log2 := (Nat.le_log2 (Nat.ne_of_gt (by omega))).mpr hm
  have hshift : (m.log2 + e - 52 - e).toNat = m.log2 - 52 := by omega
  rw [shiftToTargetExponent, targetExponent_of_normal he, shiftToExponent, hshift]
  constructor
  · rw [mantissa_shiftRight, mantissa_ofMantissaAndAccuracy]
  · dsimp only
    omega

theorem leading_bounds {m : Nat} (hm : 2 ^ 52 ≤ m) :
    2 ^ 52 ≤ m / 2 ^ (m.log2 - 52) ∧ m / 2 ^ (m.log2 - 52) < 2 ^ 53 := by
  have hne : m ≠ 0 := Nat.ne_of_gt (by omega)
  have hlog : 52 ≤ m.log2 := (Nat.le_log2 hne).mpr hm
  have hpos : 0 < 2 ^ (m.log2 - 52) := Nat.two_pow_pos _
  constructor
  · rw [Nat.le_div_iff_mul_le hpos, ← Nat.pow_add, Nat.add_sub_cancel' hlog]
    exact Nat.log2_self_le hne
  · rw [Nat.div_lt_iff_lt_mul hpos, ← Nat.pow_add]
    have hexp : 53 + (m.log2 - 52) = m.log2 + 1 := by omega
    rw [hexp]
    exact Nat.lt_log2_self

/-- A mantissa of 53 bits or more is rounded to one of 53 bits, unless the exponent is too small. -/
theorem roundWithAccuracy_of_normal (s : Sign) {m : Nat} {e : Int} (a : Accuracy)
    (hm : 2 ^ 52 ≤ m) (he : -1022 ≤ m.log2 + e) :
    ∃ m' e' hm', roundWithAccuracy .binary64 s m e a = .finite s m' e' hm' ∧
      2 ^ 52 ≤ m' ∧ m' < 2 ^ 53 ∧ m.log2 + e - 52 ≤ e' ∧ e' ≤ m.log2 + e - 51 := by
  obtain ⟨hfirst, hexp⟩ := shiftToTargetExponent_of_normal a hm he
  have hrounded := roundedMantissa_bounds (shiftToTargetExponent .binary64 m e a).1
  obtain ⟨hlo, hhi⟩ := leading_bounds hm
  rw [hfirst] at hrounded
  rw [roundWithAccuracy]
  rcases hs : shiftToTargetExponent .binary64 m e a with ⟨em, e₁⟩
  rw [hs] at hrounded hexp
  dsimp only at hrounded hexp ⊢
  -- rounding up to 2 ^ 53 makes one bit too many, which the second shift takes off
  have hr : 2 ^ 52 ≤ em.roundedMantissa := hlo.trans hrounded.1
  have hr' : em.roundedMantissa ≤ 2 ^ 53 := by omega
  have hlog : 52 ≤ em.roundedMantissa.log2 :=
    (Nat.le_log2 (Nat.ne_of_gt (by omega))).mpr hr
  have hlog' : em.roundedMantissa.log2 < 54 :=
    (Nat.log2_lt (Nat.ne_of_gt (by omega))).mpr (by omega)
  have he₁ : -1022 ≤ em.roundedMantissa.log2 + e₁ := by omega
  obtain ⟨hsecond, hexp₂⟩ := shiftToTargetExponent_of_normal .exact hr he₁
  obtain ⟨hlo₂, hhi₂⟩ := leading_bounds hr
  have hne : (shiftToTargetExponent .binary64 em.roundedMantissa e₁ .exact).1.mantissa ≠ 0 := by
    rw [hsecond]
    exact Nat.ne_of_gt (by omega)
  rw [dif_neg hne]
  refine ⟨_, _, _, rfl, ?_, ?_, ?_, ?_⟩
  · rw [hsecond]
    exact hlo₂
  · rw [hsecond]
    exact hhi₂
  · omega
  · omega

theorem finite_congr (s : Sign) {m m' : Nat} {e e' : Int} {hm : 0 < m} {hm' : 0 < m'}
    (h : m = m') (he : e = e') : UnpackedFloat.finite s m e hm = .finite s m' e' hm' := by
  cases h
  cases he
  rfl

theorem exists_sign_unpack_pack (s : Sign) {m : Nat} {e : Int} (hm : 0 < m) (hlo : 2 ^ 52 ≤ m)
    (hhi : m < 2 ^ 53) (he : -1074 ≤ e) (he' : e ≤ 971) :
    ∃ s', unpack .binary64 (pack .binary64 (.finite s m e hm)) = .finite s' m e hm := by
  have hlog : m.log2 = 52 := (Nat.log2_eq_iff (Nat.ne_of_gt hm)).mpr ⟨hlo, hhi⟩
  have hbias :
      (e + (Format.binary64.exponentBias : Int) + (52 : Nat)).toNat = (e + 1075).toNat := by
    have hb : Format.binary64.exponentBias = 1023 := rfl
    rw [hb]
    omega
  have hbits : (BitVec.ofNat 11 (e + 1075).toNat).toNat = (e + 1075).toNat := by
    rw [BitVec.toNat_ofNat]
    exact Nat.mod_eq_of_lt (by omega)
  have hne : BitVec.ofNat 11 (e + 1075).toNat ≠ -1#11 := by
    intro h
    have htop := congrArg BitVec.toNat h
    rw [hbits, BitVec.neg_one_eq_allOnes, BitVec.toNat_allOnes] at htop
    omega
  have hne₀ : BitVec.ofNat 11 (e + 1075).toNat ≠ 0#11 := by
    intro h
    have hzero := congrArg BitVec.toNat h
    rw [hbits, BitVec.toNat_zero] at hzero
    omega
  have hmantissa : (1#1 ++ BitVec.ofNat 52 m).toNat = m := by
    rw [BitVec.toNat_append, ← Nat.shiftLeft_add_eq_or_of_lt (BitVec.ofNat 52 m).isLt,
      BitVec.toNat_ofNat, BitVec.toNat_ofNat, Nat.shiftLeft_eq]
    omega
  have hexponent : ((BitVec.ofNat 11 (e + 1075).toNat).toNat : Int) -
      ((Format.binary64.exponentBias : Int) + (52 : Nat)) = e := by
    have hb : Format.binary64.exponentBias = 1023 := rfl
    rw [hbits, hb]
    omega
  have hpack : pack .binary64 (.finite s m e hm) = packComponents .binary64 s
      (BitVec.ofNat 11 (e + 1075).toNat) (BitVec.ofNat 52 m) := by
    have hfull : 52 + 1 = Format.binary64.mantissaBits := rfl
    unfold pack
    dsimp only
    rw [hbias, hlog, if_neg (by omega), if_pos hfull]
  rw [hpack]
  delta unpack
  rw [unpackExponent_packComponents, if_neg hne, if_neg hne₀]
  refine ⟨_, finite_congr _ ?_ hexponent⟩
  rw [unpackMantissa_packComponents]
  exact hmantissa

theorem finite_of_rounded (s : Sign) {m : Nat} {e : Int} (a : Accuracy) (hm : 2 ^ 52 ≤ m)
    (he : -1022 ≤ m.log2 + e) (he' : m.log2 + e ≤ 1022) :
    ∃ s' m' e' hm', unpack .binary64 (pack .binary64 (roundWithAccuracy .binary64 s m e a)) =
        .finite s' m' e' hm' ∧
      2 ^ 52 ≤ m' ∧ m' < 2 ^ 53 ∧ m.log2 + e - 52 ≤ e' ∧ e' ≤ m.log2 + e - 51 := by
  obtain ⟨m', e', hm', hround, hlo, hhi, hexp, hexp'⟩ := roundWithAccuracy_of_normal s a hm he
  obtain ⟨s', hpack⟩ := exists_sign_unpack_pack s hm' hlo hhi (e := e') (by omega) (by omega)
  rw [hround]
  exact ⟨s', m', e', hm', hpack, hlo, hhi, hexp, hexp'⟩

theorem le_log2 {m k : Nat} (h : 2 ^ k ≤ m) : k ≤ m.log2 :=
  (Nat.le_log2 (Nat.ne_of_gt (Nat.lt_of_lt_of_le (Nat.two_pow_pos k) h))).mpr h

theorem round_eq {n : Nat} (h : n < 2 ^ 53) (hn : 0 < n) :
    UnpackedFloat.round .binary64 .positive n 0 =
      roundWithAccuracy .binary64 .positive (n <<< (52 - n.log2)) (-(52 - n.log2 : Nat))
        .exact := by
  have htarget := targetExponent_of_normal (m := n) (e := 0) (by omega)
  have hlog : n.log2 < 53 := (Nat.log2_lt (Nat.ne_of_gt hn)).mpr h
  have hshift : ((0 : Int) - (n.log2 + 0 - 52)).toNat = 52 - n.log2 := by omega
  rw [UnpackedFloat.round, htarget, decreaseExponent, hshift]
  dsimp only
  rw [Int.zero_sub]

theorem finite_toFloat {n : Nat} (hn : 0 < n) (h : n < 2 ^ 53) :
    ∃ s m e hm, n.toUInt64.toFloat.toModel.unpack = .finite s m e hm ∧
      2 ^ 52 ≤ m ∧ m < 2 ^ 53 ∧ -52 ≤ e ∧ e ≤ 1 := by
  have hword : n.toUInt64.toNat = n := Nat.mod_eq_of_lt (by omega)
  have hsign : compare (n : Int) 0 = .gt := compare_gt_iff_gt.mpr (Int.natCast_pos.mpr hn)
  have hunpack : n.toUInt64.toFloat.toModel.unpack =
      unpack .binary64 (pack .binary64 (UnpackedFloat.round .binary64 .positive n 0)) := by
    have hmodel : n.toUInt64.toFloat.toModel.unpack =
      unpack .binary64
        (pack .binary64 (UnpackedFloat.normalize .binary64 n.toUInt64.toNat 0 .positive)) := rfl
    rw [hmodel, hword, UnpackedFloat.normalize, hsign]
    rfl
  have hlog : n.log2 ≤ 52 := Nat.le_of_lt_succ ((Nat.log2_lt (Nat.ne_of_gt hn)).mpr h)
  -- shifted up, the mantissa has exactly 53 bits
  have hlo : 2 ^ 52 ≤ n <<< (52 - n.log2) := by
    rw [Nat.shiftLeft_eq]
    calc 2 ^ 52 = 2 ^ n.log2 * 2 ^ (52 - n.log2) := by rw [← Nat.pow_add, Nat.add_sub_cancel' hlog]
      _ ≤ n * 2 ^ (52 - n.log2) := Nat.mul_le_mul_right _ (Nat.log2_self_le (Nat.ne_of_gt hn))
  have hhi : n <<< (52 - n.log2) < 2 ^ 53 := by
    have hexp : n.log2 + 1 + (52 - n.log2) = 53 := by omega
    rw [Nat.shiftLeft_eq]
    calc n * 2 ^ (52 - n.log2) < 2 ^ (n.log2 + 1) * 2 ^ (52 - n.log2) :=
          Nat.mul_lt_mul_of_pos_right Nat.lt_log2_self (Nat.two_pow_pos _)
      _ = 2 ^ 53 := by rw [← Nat.pow_add, hexp]
  have hlog₂ : (n <<< (52 - n.log2)).log2 = 52 :=
    (Nat.log2_eq_iff (Nat.ne_of_gt (by omega))).mpr ⟨hlo, hhi⟩
  rw [hunpack, round_eq h hn]
  obtain ⟨s, m, e, hm, hfinite, hm₁, hm₂, he₁, he₂⟩ :=
    finite_of_rounded .positive (e := -(52 - n.log2 : Nat)) .exact hlo (by omega) (by omega)
  exact ⟨s, m, e, hm, hfinite, hm₁, hm₂, by omega, by omega⟩

theorem finite_ofNat {n : Nat} (hn : 0 < n) (h : n < 2 ^ 64) :
    ∃ s m e hm, (Float.ofNat n).toModel.unpack = .finite s m e hm := by
  by_cases hsmall : n < 2 ^ 53
  · obtain ⟨s, m, e, hm, hf, hm₁, hm₂, he₁, he₂⟩ := finite_toFloat hn hsmall
    have hone : (1.0 : Float).toModel.unpack = .finite .positive (2 ^ 52) (-52) (by decide) := by
      rfl
    have hofNat : Float.ofNat n = n.toUInt64.toFloat * 1.0 := by
      have hfast : n < 2 ^ 53 ∧ 0 ≤ 22 := ⟨hsmall, by decide⟩
      have hdef : Float.ofNat n = Float.ofScientific n false 0 := rfl
      rw [hdef, Float.ofScientific, dif_pos hfast]
      rfl
    have hmul : (n.toUInt64.toFloat * 1.0).toModel.unpack = unpack .binary64 (pack .binary64
        (mul .binary64 n.toUInt64.toFloat.toModel.unpack (1.0 : Float).toModel.unpack)) := rfl
    have hlo : 2 ^ 52 ≤ m * 2 ^ 52 := Nat.le_mul_of_pos_left _ hm
    have hlog : (m * 2 ^ 52).log2 < 106 := (Nat.log2_lt (Nat.ne_of_gt (by omega))).mpr (by omega)
    have hlog₂ := le_log2 hlo
    rw [hofNat, hmul, hf, hone]
    obtain ⟨s', m', e', hm', hfinite, _⟩ :=
      finite_of_rounded (s * .positive) (e := e + -52) .exact hlo (by omega) (by omega)
    exact ⟨s', m', e', hm', hfinite⟩
  · have hofNat : (Float.ofNat n).toModel.unpack =
        unpack .binary64 (pack .binary64 (ofScientific .binary64 n 0)) := by
      have hslow : ¬ (n < 2 ^ 53 ∧ 0 ≤ 22) := fun hfast => hsmall hfast.1
      have hdef : Float.ofNat n = Float.ofScientific n false 0 := rfl
      rw [hdef, Float.ofScientific, dif_neg hslow]
      rfl
    have hscientific : ofScientific .binary64 n 0 =
        roundWithAccuracy .binary64 (.positive * .positive) (n <<< 53 * 10 ^ 0) (-53 + 0)
          .exact := by
      have hlarge : ¬ (0 : Int) < -(2 ^ 11 + n.log2) := by omega
      rw [ofScientific, dif_neg (Nat.ne_of_gt hn), if_neg (by decide), if_neg hlarge,
        if_pos (Int.le_refl 0)]
      rfl
    have hlo : 2 ^ 52 ≤ n <<< 53 * 10 ^ 0 := by
      rw [Nat.shiftLeft_eq]
      omega
    have hlog : (n <<< 53 * 10 ^ 0).log2 < 118 := by
      apply (Nat.log2_lt (Nat.ne_of_gt (by omega))).mpr
      rw [Nat.shiftLeft_eq]
      omega
    have hlog₂ := le_log2 hlo
    rw [hofNat, hscientific]
    obtain ⟨s', m', e', hm', hfinite, _⟩ :=
      finite_of_rounded (.positive * .positive) (e := -53 + 0) .exact hlo (by omega) (by omega)
    exact ⟨s', m', e', hm', hfinite⟩

theorem isNaN_ofNat {n : Nat} (hn : 0 < n) (h : n < 2 ^ 64) : (Float.ofNat n).isNaN = false := by
  obtain ⟨s, m, e, hm, hf⟩ := finite_ofNat hn h
  change (Float.ofNat n).toModel.unpack.isNaN = false
  rw [hf]
  rfl

end Rounding

end BenchCharts.Decimal

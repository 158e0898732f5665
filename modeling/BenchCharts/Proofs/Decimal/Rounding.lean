import BenchCharts.Decimal.Fixed
import BenchCharts.Proofs.Decimal.Exact
import Mathlib.Algebra.Order.Floor.Semifield
import Mathlib.Data.Int.Log
import Mathlib.Data.Rat.Floor
import Mathlib.Tactic.Linarith
import Mathlib.Tactic.Positivity

/-!
Rounding to a decimal place keeps the order of numbers and passes no number of this place. The first
digit of a number stands at its decimal logarithm.
-/

namespace BenchCharts.Decimal

section Halves

variable {q r : Rat}

theorem eq_toNat_num_div_den (hq : 0 ≤ q) : q = (q.num.toNat : Nat) / (q.den : Rat) := by
  rw [← Int.cast_natCast, Int.toNat_of_nonneg (Rat.num_nonneg.mpr hq), Rat.num_div_den]

/-- Rounding decides by the distance from the whole number below. -/
theorem roundHalfEven_eq (hq : 0 ≤ q) : roundHalfEven q =
    if 2 * (q - ⌊q⌋₊) < 1 then ⌊q⌋₊
    else if 1 < 2 * (q - ⌊q⌋₊) then ⌊q⌋₊ + 1
    else if ⌊q⌋₊ % 2 = 0 then ⌊q⌋₊
    else ⌊q⌋₊ + 1 := by
  have hdiv := eq_toNat_num_div_den hq
  have hden : (0 : Rat) < q.den := Nat.cast_pos.mpr q.den_pos
  unfold roundHalfEven
  dsimp only
  generalize q.num.toNat = n at hdiv ⊢
  generalize q.den = d at hdiv hden ⊢
  subst hdiv
  have hrest : (n : Rat) / d - (n / d : Nat) = (n % d : Nat) / d := by
    rw [sub_eq_iff_eq_add, div_add' _ _ _ hden.ne', div_left_inj' hden.ne']
    exact_mod_cast (Nat.mod_add_div' n d).symm
  have hbelow : 2 * (((n % d : Nat) : Rat) / d) < 1 ↔ 2 * (n % d) < d := by
    rw [← mul_div_assoc, div_lt_one hden]
    exact_mod_cast Iff.rfl
  have habove : 1 < 2 * (((n % d : Nat) : Rat) / d) ↔ d < 2 * (n % d) := by
    rw [← mul_div_assoc, one_lt_div hden]
    exact_mod_cast Iff.rfl
  rw [Nat.floor_div_eq_div, hrest]
  simp only [hbelow, habove]

theorem floor_le_roundHalfEven (hq : 0 ≤ q) : ⌊q⌋₊ ≤ roundHalfEven q := by
  rw [roundHalfEven_eq hq]
  split_ifs <;> omega

theorem roundHalfEven_le_floor (hq : 0 ≤ q) : roundHalfEven q ≤ ⌊q⌋₊ + 1 := by
  rw [roundHalfEven_eq hq]
  split_ifs <;> omega

theorem roundHalfEven_mono (hq : 0 ≤ q) (h : q ≤ r) : roundHalfEven q ≤ roundHalfEven r := by
  have hr := hq.trans h
  rcases (Nat.floor_mono h).lt_or_eq with hlt | heq
  · calc roundHalfEven q ≤ ⌊q⌋₊ + 1 := roundHalfEven_le_floor hq
      _ ≤ ⌊r⌋₊ := hlt
      _ ≤ roundHalfEven r := floor_le_roundHalfEven hr
  · -- the two lie between the same whole numbers
    rw [roundHalfEven_eq hq, roundHalfEven_eq hr, heq]
    split_ifs <;> first | omega | (exfalso; linarith)

theorem roundHalfEven_natCast (n : Nat) : roundHalfEven n = n := by
  rw [roundHalfEven_eq (Nat.cast_nonneg n), Nat.floor_natCast, sub_self, mul_zero,
    if_pos zero_lt_one]

end Halves

section Places

variable {place : Int} {q r : Rat}

/-- The number nearest to `q` with its last digit at a power of ten, a half to the even digit. -/
def roundTo (place : Int) (q : Rat) : Rat :=
  roundHalfEven (q * 10 ^ (-place)) * 10 ^ place

theorem roundTo_zero : roundTo place 0 = 0 := by
  have hzero : roundHalfEven 0 = 0 := roundHalfEven_natCast 0
  rw [roundTo, zero_mul, hzero, Nat.cast_zero, zero_mul]

theorem roundTo_mono (hq : 0 ≤ q) (h : q ≤ r) : roundTo place q ≤ roundTo place r := by
  unfold roundTo
  gcongr
  apply roundHalfEven_mono
  · positivity
  · gcongr

theorem roundTo_zpow {power : Int} (h : place ≤ power) :
    roundTo place (10 ^ power) = 10 ^ power := by
  obtain ⟨n, hn⟩ := Int.eq_ofNat_of_zero_le (sub_nonneg.mpr h)
  have hscaled : (10 : Rat) ^ power * 10 ^ (-place) = (10 ^ n : Nat) := by
    rw [← zpow_add₀ (by norm_num), ← sub_eq_add_neg, hn, zpow_natCast, Nat.cast_pow, Nat.cast_ofNat]
  rw [roundTo, hscaled, roundHalfEven_natCast, ← hscaled, mul_assoc, ← zpow_add₀ (by norm_num),
    neg_add_cancel, zpow_zero, mul_one]

theorem le_roundTo {power : Int} (hp : place ≤ power) (h : 10 ^ power ≤ q) :
    10 ^ power ≤ roundTo place q :=
  calc (10 : Rat) ^ power = roundTo place (10 ^ power) := (roundTo_zpow hp).symm
    _ ≤ roundTo place q := roundTo_mono (by positivity) h

theorem roundTo_le {power : Int} (hp : place ≤ power) (hq : 0 ≤ q) (h : q ≤ 10 ^ power) :
    roundTo place q ≤ 10 ^ power :=
  (roundTo_mono hq h).trans_eq (roundTo_zpow hp)

theorem roundTo_shift (place power : Int) (q : Rat) :
    roundTo place (q * 10 ^ (-power)) * 10 ^ power = roundTo (place + power) q := by
  have hten : (10 : Rat) ≠ 0 := by norm_num
  rw [roundTo, roundTo, mul_assoc, mul_assoc, ← zpow_add₀ hten, ← zpow_add₀ hten, ← neg_add_rev]

end Places

section Logarithm

theorem lt_pow_length_digits (n : Nat) : n < 10 ^ (digits n).length :=
  (Nat.length_toDigits_le_iff (by decide) Nat.length_toDigits_pos).mp le_rfl

theorem pow_length_digits_le {n : Nat} (hn : 0 < n) : 10 ^ ((digits n).length - 1) ≤ n := by
  rcases Nat.eq_zero_or_pos ((digits n).length - 1) with h | h
  · rw [h, pow_zero]
    exact hn
  · have hshort : ¬ (digits n).length ≤ (digits n).length - 1 := by omega
    exact Nat.le_of_not_lt (mt (Nat.length_toDigits_le_iff (by decide) h).mpr hshort)

theorem log_eq_of_bounds {q : Rat} {power : Int} (hlow : 10 ^ power ≤ q)
    (hhigh : q < 10 ^ (power + 1)) : Int.log 10 q = power := by
  have hq : 0 < q := (zpow_pos (by norm_num) power).trans_le hlow
  have hle := (Int.zpow_le_iff_le_log (b := 10) (by decide) hq).mp hlow
  have hlt := (Int.lt_zpow_iff_log_lt (b := 10) (by decide) hq).mp hhigh
  omega

theorem div_bounds {n d a b : Nat} (hn : 10 ^ a ≤ n) (hn' : n < 10 ^ (a + 1)) (hd : 10 ^ b ≤ d)
    (hd' : d < 10 ^ (b + 1)) :
    (10 : Rat) ^ ((a : Int) - b - 1) ≤ n / d ∧ (n : Rat) / d < 10 ^ ((a : Int) - b + 1) := by
  have hten : (10 : Rat) ≠ 0 := by norm_num
  have hden : (0 : Rat) < d := Nat.cast_pos.mpr ((Nat.pow_pos (by decide)).trans_le hd)
  have hn : (10 : Rat) ^ (a : Int) ≤ n := by exact_mod_cast hn
  have hn' : (n : Rat) < 10 ^ ((a : Int) + 1) := by exact_mod_cast hn'
  have hd : (10 : Rat) ^ (b : Int) ≤ d := by exact_mod_cast hd
  have hd' : (d : Rat) ≤ 10 ^ ((b : Int) + 1) := by exact_mod_cast hd'.le
  rw [le_div_iff₀ hden, div_lt_iff₀ hden]
  constructor
  · calc (10 : Rat) ^ ((a : Int) - b - 1) * d
        ≤ 10 ^ ((a : Int) - b - 1) * 10 ^ ((b : Int) + 1) := by gcongr
      _ = 10 ^ (a : Int) := by
          rw [← zpow_add₀ hten]
          congr 1
          omega
      _ ≤ n := hn
  · calc (n : Rat) < 10 ^ ((a : Int) + 1) := hn'
      _ = 10 ^ ((a : Int) - b + 1) * 10 ^ (b : Int) := by
          rw [← zpow_add₀ hten]
          congr 1
          omega
      _ ≤ 10 ^ ((a : Int) - b + 1) * d := by gcongr

theorem leadingPower_eq {q : Rat} (hq : 0 < q) : leadingPower q = Int.log 10 q := by
  have hnum : 0 < q.num.toNat := Int.pos_iff_toNat_pos.mp (Rat.num_pos.mpr hq)
  obtain ⟨a, ha⟩ := Nat.exists_eq_add_one.mpr (Nat.length_toDigits_pos (b := 10) (n := q.num.toNat))
  obtain ⟨b, hb⟩ := Nat.exists_eq_add_one.mpr (Nat.length_toDigits_pos (b := 10) (n := q.den))
  have hn := pow_length_digits_le hnum
  have hn' := lt_pow_length_digits q.num.toNat
  have hd := pow_length_digits_le q.den_pos
  have hd' := lt_pow_length_digits q.den
  rw [digits, ha] at hn hn'
  rw [digits, hb] at hd hd'
  obtain ⟨hlow, hhigh⟩ := div_bounds hn hn' hd hd'
  rw [← eq_toNat_num_div_den hq.le] at hlow hhigh
  have hguess : ((digits q.num.toNat).length : Int) - (digits q.den).length = a - b := by
    rw [digits, digits, ha, hb]
    omega
  rw [leadingPower, hguess]
  split
  · next h => exact (log_eq_of_bounds (powTen_eq _ ▸ h) hhigh).symm
  · next h =>
    refine (log_eq_of_bounds hlow ?_).symm
    rw [sub_add_cancel, ← powTen_eq]
    exact not_le.mp h

theorem zpow_le_iff_le_leadingPower {q : Rat} (hq : 0 < q) (power : Int) :
    10 ^ power ≤ q ↔ power ≤ leadingPower q := by
  rw [leadingPower_eq hq]
  exact Int.zpow_le_iff_le_log (b := 10) (by decide) hq

theorem lt_zpow_iff_leadingPower_lt {q : Rat} (hq : 0 < q) (power : Int) :
    q < 10 ^ power ↔ leadingPower q < power := by
  rw [leadingPower_eq hq]
  exact Int.lt_zpow_iff_log_lt (b := 10) (by decide) hq

end Logarithm

end BenchCharts.Decimal

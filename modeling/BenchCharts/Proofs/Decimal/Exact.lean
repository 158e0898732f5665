import BenchCharts.Decimal.Exact
import BenchCharts.Proofs.Decimal.Double
import Mathlib.Algebra.Order.Field.Power
import Mathlib.Data.Nat.Bitwise
import Mathlib.Data.Rat.Cast.Order
import Mathlib.Order.Compare
import Mathlib.Tactic.Ring

/-!
The number that a finite double stands for, read off its bits. Doubles are compared as these numbers
are.
-/

namespace BenchCharts.Decimal

open Float.Model (Format UnpackedFloat)
open Float.Model.UnpackedFloat

theorem mkRat_pow_eq (base : Nat) (e : Int) :
    (if 0 ≤ e then (Nat.pow base e.toNat : Rat) else mkRat 1 (Nat.pow base (-e).toNat)) =
      (base : Rat) ^ e := by
  split
  · next h =>
    obtain ⟨n, rfl⟩ := Int.eq_ofNat_of_zero_le h
    rw [Int.toNat_natCast, Nat.pow_eq, Nat.cast_pow, zpow_natCast]
  · next h =>
    obtain ⟨n, rfl⟩ := Int.eq_negSucc_of_lt_zero (Int.not_le.mp h)
    rw [Int.neg_negSucc, Int.toNat_natCast, Rat.mkRat_eq_div, Nat.pow_eq, Nat.cast_pow,
      zpow_negSucc, Int.cast_one, one_div]

theorem powTwo_eq (e : Int) : powTwo e = 2 ^ e :=
  mkRat_pow_eq 2 e

theorem powTen_eq (e : Int) : powTen e = 10 ^ e :=
  mkRat_pow_eq 10 e

def signed (negative : Bool) (q : Rat) : Rat :=
  if negative then -q else q

/-- What the fields of a double stand for. -/
inductive Encodes (s : Sign) : (exponent fraction : Nat) → UnpackedFloat → Prop
  | infinity : Encodes s 0x7FF 0 (.infinity s)
  | notANumber {m} (hm : m ≠ 0) : Encodes s 0x7FF m .notANumber
  | zero : Encodes s 0 0 (.zero s)
  | subnormal {m} (hm : 0 < m) : Encodes s 0 m (.finite s m (-1074) hm)
  | normal {e m} (he : e ≠ 0) (he' : e ≠ 0x7FF) (hm : 0 < 2 ^ 52 + m) :
      Encodes s e m (.finite s (2 ^ 52 + m) (e - 1075) hm)

theorem encodes_unpack (b : BitVec 64) :
    Encodes (Sign.ofBitVec (@unpackSign .binary64 b))
      (@unpackExponent .binary64 b).toNat (@unpackMantissa .binary64 b).toNat
      (unpack .binary64 b) := by
  unfold unpack
  dsimp only
  have hbias : ((Format.binary64.exponentBias : Int) + (52 : Nat)) = 1075 := rfl
  by_cases htop : @unpackExponent .binary64 b = -1#11
  · rw [if_pos htop, htop]
    by_cases hzero : @unpackMantissa .binary64 b = 0#52
    · rw [if_pos hzero, hzero]
      exact .infinity
    · rw [if_neg hzero]
      exact .notANumber fun h => hzero (BitVec.eq_of_toNat_eq h)
  · rw [if_neg htop]
    by_cases hlow : @unpackExponent .binary64 b = 0#11
    · rw [if_pos hlow, hlow]
      by_cases hzero : @unpackMantissa .binary64 b = 0#52
      · rw [dif_pos hzero, hzero]
        exact .zero
      · rw [dif_neg hzero]
        exact .subnormal _
    · rw [if_neg hlow]
      have hmantissa : (1#1 ++ @unpackMantissa .binary64 b).toNat =
          2 ^ 52 + (@unpackMantissa .binary64 b).toNat := by
        rw [BitVec.toNat_append, ← Nat.shiftLeft_add_eq_or_of_lt (BitVec.isLt _)]
        rfl
      have hm : 0 < 2 ^ 52 + (@unpackMantissa .binary64 b).toNat := by omega
      rw [@finite_congr _ _ _ _ _ _ hm hmantissa (congrArg _ hbias)]
      exact .normal (fun h => hlow (BitVec.eq_of_toNat_eq h))
        (fun h => htop (BitVec.eq_of_toNat_eq h)) hm

namespace Exact

/-- The number that is denoted, if it is finite. -/
def value : Exact → Rat
  | .finite negative q => signed negative q
  | _ => 0

def ofUnpacked : UnpackedFloat → Exact
  | .notANumber => .nan
  | .infinity s => .infinite (s == .negative)
  | .zero s => .finite (s == .negative) 0
  | .finite s m e _ => .finite (s == .negative) (m * 2 ^ e)

theorem value_zero (s : Sign) : (ofUnpacked (.zero s)).value = 0 := by
  cases s <;> rfl

theorem value_positive {m : Nat} (e : Int) (hm : 0 < m) :
    (ofUnpacked (.finite .positive m e hm)).value = m * 2 ^ e := rfl

theorem value_negative {m : Nat} (e : Int) (hm : 0 < m) :
    (ofUnpacked (.finite .negative m e hm)).value = -(m * 2 ^ e) := rfl

theorem exists_ofUnpacked_eq {u : UnpackedFloat} (h : u.isFinite = true) :
    ∃ negative q, 0 ≤ q ∧ ofUnpacked u = .finite negative q := by
  cases u with
  | infinity => cases h
  | notANumber => cases h
  | zero s => exact ⟨_, 0, le_rfl, rfl⟩
  | finite s m e hm =>
    exact ⟨_, m * 2 ^ e, mul_nonneg (Nat.cast_nonneg m) (zpow_pos two_pos e).le, rfl⟩

section Fields

variable (bits : UInt64)

theorem toNat_fraction : (bits &&& 0xFFFFFFFFFFFFF).toNat =
    (@unpackMantissa .binary64 bits.toBitVec).toNat := by
  rw [UInt64.toNat_and, unpackMantissa, BitVec.toNat_cast, BitVec.extractLsb_toNat]
  exact Nat.and_two_pow_sub_one_eq_mod _ 52

theorem toNat_exponent : ((bits >>> 52) &&& 0x7FF).toNat =
    (@unpackExponent .binary64 bits.toBitVec).toNat := by
  rw [UInt64.toNat_and, UInt64.toNat_shiftRight, unpackExponent, BitVec.toNat_cast,
    BitVec.extractLsb_toNat]
  exact Nat.and_two_pow_sub_one_eq_mod _ 11

theorem sign_eq : (bits >>> 63 == 1) =
    (Sign.ofBitVec (@unpackSign .binary64 bits.toBitVec) == .negative) := by
  have hbit : (bits >>> 63).toNat =
      (@unpackSign .binary64 bits.toBitVec).toNat := by
    have hsign : @unpackSign .binary64 bits.toBitVec =
        (BitVec.extractLsb 63 63 bits.toBitVec).cast (by rfl) := rfl
    rw [hsign, UInt64.toNat_shiftRight, BitVec.toNat_cast, BitVec.extractLsb_toNat]
    have hlt := bits.toNat_lt
    change bits.toNat >>> 63 = bits.toNat >>> 63 % 2
    rw [Nat.shiftRight_eq_div_pow]
    omega
  generalize hs : @unpackSign .binary64 bits.toBitVec = s at hbit
  have hone : bits >>> 63 = 1 ↔ s = 1#1 := by
    rw [← UInt64.toNat_inj, hbit, ← BitVec.toNat_inj]
    rfl
  have hsign : ∀ s : BitVec 1, s = 1#1 ↔ (Sign.ofBitVec s == .negative) = true := by decide
  rw [Bool.eq_iff_iff, beq_iff_eq, hone, hsign]

end Fields

theorem ofFloat_eq (x : Float) : ofFloat x = ofUnpacked x.toModel.unpack := by
  have hfields := encodes_unpack x.toBits.toBitVec
  change ofBits x.toBits = ofUnpacked (unpack .binary64 x.toBits.toBitVec)
  unfold ofBits
  dsimp only
  rw [toNat_fraction, toNat_exponent, sign_eq]
  generalize (@unpackExponent .binary64 x.toBits.toBitVec).toNat = e at hfields ⊢
  generalize (@unpackMantissa .binary64 x.toBits.toBitVec).toNat = m at hfields ⊢
  generalize unpack .binary64 x.toBits.toBitVec = u at hfields ⊢
  cases hfields with
  | infinity => rfl
  | notANumber hm =>
    rw [if_pos rfl, if_neg hm]
    rfl
  | zero =>
    rw [if_neg (by decide), if_pos rfl, Nat.cast_zero, zero_mul]
    rfl
  | subnormal =>
    rw [if_neg (by decide), if_pos rfl, powTwo_eq]
    rfl
  | normal he he' =>
    rw [if_neg he', if_neg he, powTwo_eq]
    rfl

end Exact

/-- The number that a finite double stands for. -/
def valueOf (x : Float) : Rat :=
  (Exact.ofFloat x).value

section Order

/-- Of two such numbers the one with the larger exponent is larger, whatever the mantissas. -/
def Normal (m : Nat) (e : Int) : Prop :=
  m < 2 ^ 53 ∧ -1074 ≤ e ∧ (2 ^ 52 ≤ m ∨ e = -1074)

theorem Encodes.normal_finite {s s' : Sign} {exponent fraction m : Nat} {e : Int} {hm : 0 < m}
    (h : Encodes s exponent fraction (.finite s' m e hm)) (hf : fraction < 2 ^ 52) :
    Normal m e := by
  cases h with
  | subnormal => exact ⟨by omega, le_rfl, .inr rfl⟩
  | normal he => exact ⟨by omega, by omega, .inl (Nat.le_add_right _ _)⟩

theorem scaled_lt_of_lt {m m' : Nat} {e e' : Int} (h : Normal m e) (h' : Normal m' e')
    (he : e < e') : (m : Rat) * 2 ^ e < m' * 2 ^ e' := by
  obtain ⟨hm, he₀, -⟩ := h
  obtain ⟨-, -, hm'⟩ := h'
  have hm' : 2 ^ 52 ≤ m' := hm'.resolve_right (by omega)
  calc (m : Rat) * 2 ^ e < 2 ^ 53 * 2 ^ e :=
        mul_lt_mul_of_pos_right (by exact_mod_cast hm) (zpow_pos two_pos e)
    _ = 2 ^ 52 * 2 ^ (e + 1) := by
        rw [zpow_add_one₀ two_ne_zero]
        ring
    _ ≤ m' * 2 ^ e' :=
        mul_le_mul (by exact_mod_cast hm') (zpow_le_zpow_right₀ one_le_two he)
          (zpow_pos two_pos _).le (Nat.cast_nonneg m')

theorem compare_scaled {m m' : Nat} {e e' : Int} (h : Normal m e) (h' : Normal m' e') :
    (compare e e').then (compare m m') = compare ((m : Rat) * 2 ^ e) (m' * 2 ^ e') := by
  rcases lt_trichotomy e e' with he | rfl | he
  · rw [compare_lt_iff_lt.mpr he, compare_lt_iff_lt.mpr (scaled_lt_of_lt h h' he)]
    rfl
  · have hpos : (0 : Rat) < 2 ^ e := zpow_pos two_pos e
    have hmono : StrictMono fun n : Nat => (n : Rat) * 2 ^ e :=
      fun a b hab => mul_lt_mul_of_pos_right (Nat.cast_lt.mpr hab) hpos
    rw [compare_eq_iff_eq.mpr rfl, Ordering.eq_then, ← cmp_eq_compare, ← cmp_eq_compare]
    exact (hmono.cmp_map_eq m m').symm
  · rw [compare_gt_iff_gt.mpr he, compare_gt_iff_gt.mpr (scaled_lt_of_lt h' h he)]
    rfl

theorem compare_neg (a b : Rat) : compare (-a) (-b) = (compare a b).swap := by
  have hanti : StrictAnti fun q : Rat => -q := fun _ _ => neg_lt_neg
  rw [← cmp_eq_compare, ← cmp_eq_compare, cmp_swap]
  exact hanti.cmp_map_eq a b

/-- A finite double, taken apart. -/
inductive IsFinite : UnpackedFloat → Prop
  | zero (s : Sign) : IsFinite (.zero s)
  | finite (s : Sign) {m : Nat} {e : Int} (hm : 0 < m) (h : Normal m e) :
      IsFinite (.finite s m e hm)

theorem isFinite_unpack {x : Float} (h : x.isFinite = true) : IsFinite x.toModel.unpack := by
  have hfields := encodes_unpack x.toBits.toBitVec
  have hfinite : (unpack .binary64 x.toBits.toBitVec).isFinite = true := h
  change IsFinite (unpack .binary64 x.toBits.toBitVec)
  cases hu : unpack .binary64 x.toBits.toBitVec with
  | infinity => rw [hu] at hfinite; cases hfinite
  | notANumber => rw [hu] at hfinite; cases hfinite
  | zero s => exact .zero s
  | finite s m e hm =>
    rw [hu] at hfields
    have hlt := (@unpackMantissa .binary64 x.toBits.toBitVec).isLt
    exact .finite s hm (hfields.normal_finite hlt)

theorem IsFinite.compare_eq {u v : UnpackedFloat} (hu : IsFinite u) (hv : IsFinite v) :
    u.compare v = some (compare (Exact.ofUnpacked u).value (Exact.ofUnpacked v).value) := by
  have hpos {m : Nat} (hm : 0 < m) (e : Int) : (0 : Rat) < m * 2 ^ e :=
    mul_pos (Nat.cast_pos.mpr hm) (zpow_pos two_pos e)
  cases hu with
  | zero s =>
    rw [Exact.value_zero]
    cases hv with
    | zero s' =>
      rw [Exact.value_zero, compare_eq_iff_eq.mpr rfl]
      rfl
    | @finite s' m e hm =>
      cases s' with
      | positive =>
        rw [Exact.value_positive, compare_lt_iff_lt.mpr (hpos hm e)]
        rfl
      | negative =>
        rw [Exact.value_negative, compare_gt_iff_gt.mpr (neg_neg_of_pos (hpos hm e))]
        rfl
  | @finite s m e hm h =>
    cases hv with
    | zero s' =>
      rw [Exact.value_zero]
      cases s with
      | positive =>
        rw [Exact.value_positive, compare_gt_iff_gt.mpr (hpos hm e)]
        rfl
      | negative =>
        rw [Exact.value_negative, compare_lt_iff_lt.mpr (neg_neg_of_pos (hpos hm e))]
        rfl
    | @finite s' m' e' hm' h' =>
      have hneg : -((m : Rat) * 2 ^ e) < m' * 2 ^ e' :=
        (neg_neg_of_pos (hpos hm e)).trans (hpos hm' e')
      have hpos' : -((m' : Rat) * 2 ^ e') < m * 2 ^ e :=
        (neg_neg_of_pos (hpos hm' e')).trans (hpos hm e)
      cases s <;> cases s'
      case positive.positive =>
        rw [Exact.value_positive, Exact.value_positive, ← compare_scaled h h']
        rfl
      case positive.negative =>
        rw [Exact.value_positive, Exact.value_negative, compare_gt_iff_gt.mpr hpos']
        rfl
      case negative.positive =>
        rw [Exact.value_positive, Exact.value_negative, compare_lt_iff_lt.mpr hneg]
        rfl
      case negative.negative =>
        rw [Exact.value_negative, Exact.value_negative, compare_neg, ← compare_scaled h h']
        rfl

theorem compare_unpack {x y : Float} (hx : x.isFinite = true) (hy : y.isFinite = true) :
    x.toModel.unpack.compare y.toModel.unpack = some (compare (valueOf x) (valueOf y)) := by
  rw [valueOf, valueOf, Exact.ofFloat_eq, Exact.ofFloat_eq]
  exact (isFinite_unpack hx).compare_eq (isFinite_unpack hy)

theorem le_iff_valueOf_le {x y : Float} (hx : x.isFinite = true) (hy : y.isFinite = true) :
    x ≤ y ↔ valueOf x ≤ valueOf y := by
  rw [le_iff_unpack, UnpackedFloat.le, compare_unpack hx hy, ← compare_le_iff_le]
  cases compare (valueOf x) (valueOf y) <;> decide

theorem lt_iff_valueOf_lt {x y : Float} (hx : x.isFinite = true) (hy : y.isFinite = true) :
    x < y ↔ valueOf x < valueOf y := by
  rw [lt_iff_unpack, UnpackedFloat.lt, compare_unpack hx hy, beq_iff_eq, Option.some.injEq,
    compare_lt_iff_lt]

theorem beq_iff_valueOf_eq {x y : Float} (hx : x.isFinite = true) (hy : y.isFinite = true) :
    (x == y) = true ↔ valueOf x = valueOf y := by
  have hbeq : (x == y) =
      (x.toModel.unpack.compare y.toModel.unpack == some Ordering.eq) := rfl
  rw [hbeq, compare_unpack hx hy, beq_iff_eq, Option.some.injEq,
    compare_eq_iff_eq]

theorem isFinite_zero : (0.0 : Float).isFinite = true := by rfl

theorem valueOf_zero : valueOf 0.0 = 0 := by
  rw [valueOf, Exact.ofFloat_eq]
  rfl

end Order

end BenchCharts.Decimal

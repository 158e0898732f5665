import BenchCharts.Proofs.Decimal.Exact
import BenchCharts.Proofs.Decimal.Positive

/-!
Doubles that differ in nothing but the sign of a zero. Differences, products and maxima of such
doubles are alike again, and next to a number that is no zero the sign is lost.
-/

namespace BenchCharts.Decimal

open Float.Model (Format UnpackedFloat)
open Float.Model.UnpackedFloat

section Parts

/-- A double with the sign taken off a zero. -/
def plain : UnpackedFloat → UnpackedFloat
  | .zero _ => .zero .positive
  | u => u

variable (spec : Format) (u v : UnpackedFloat)

theorem plain_sub : plain (sub spec u v) = plain (sub spec (plain u) (plain v)) := by
  cases u with
  | zero s =>
    cases v with
    | zero t => cases s <;> cases t <;> rfl
    | infinity => rfl
    | notANumber => rfl
    | finite => rfl
  | infinity => cases v <;> rfl
  | notANumber => rfl
  | finite => cases v <;> rfl

theorem plain_mul : plain (mul spec u v) = plain (mul spec (plain u) (plain v)) := by
  cases u <;> cases v <;> rfl

theorem plain_neg : plain (neg u) = plain (neg (plain u)) := by
  cases u <;> rfl

theorem compare_plain : (plain u).compare (plain v) = u.compare v := by
  cases u with
  | zero =>
    cases v with
    | infinity t => cases t <;> rfl
    | finite t => cases t <;> rfl
    | zero => rfl
    | notANumber => rfl
  | infinity s =>
    cases v with
    | zero => cases s <;> rfl
    | infinity => rfl
    | notANumber => rfl
    | finite => rfl
  | notANumber => rfl
  | finite s =>
    cases v with
    | zero => cases s <;> rfl
    | infinity => rfl
    | notANumber => rfl
    | finite => rfl

theorem plain_unpack_pack : plain (unpack .binary64 (pack .binary64 u)) =
    plain (unpack .binary64 (pack .binary64 (plain u))) := by
  cases u with
  | zero s => cases s <;> rfl
  | infinity => rfl
  | notANumber => rfl
  | finite => rfl

variable {v} (h : ∀ s, v ≠ .zero s)

include h

theorem eq_of_plain_eq (h' : plain v = plain u) : v = u := by
  have hv : plain v = v := by
    cases v with
    | zero s => exact absurd rfl (h s)
    | infinity => rfl
    | notANumber => rfl
    | finite => rfl
  rw [hv] at h'
  cases u with
  | zero => exact absurd h' (h _)
  | infinity => exact h'
  | notANumber => exact h'
  | finite => exact h'

theorem add_of_ne_zero : add spec u v = add spec (plain u) v := by
  cases u with
  | zero s =>
    cases v with
    | zero t => exact absurd rfl (h t)
    | infinity => rfl
    | notANumber => rfl
    | finite => rfl
  | infinity => rfl
  | notANumber => rfl
  | finite => rfl

theorem sub_of_ne_zero : sub spec u v = sub spec (plain u) v := by
  cases u with
  | zero s =>
    cases v with
    | zero t => exact absurd rfl (h t)
    | infinity => rfl
    | notANumber => rfl
    | finite => rfl
  | infinity => rfl
  | notANumber => rfl
  | finite => rfl

end Parts

theorem eq_of_compare_scaled {m m' : Nat} {e e' : Int}
    (h : (compare e e').then (compare m m') = .eq) : e = e' ∧ m = m' := by
  obtain ⟨he, hm⟩ := Ordering.then_eq_eq.mp h
  exact ⟨compare_eq_iff_eq.mp he, compare_eq_iff_eq.mp hm⟩

theorem IsFinite.plain_eq {u v : UnpackedFloat} (hu : IsFinite u) (hv : IsFinite v)
    (h : u.compare v = some .eq) : plain u = plain v := by
  cases hu with
  | zero s =>
    cases hv with
    | zero => rfl
    | finite t => cases t <;> cases h
  | finite s hm =>
    cases hv with
    | zero => cases s <;> cases h
    | finite t hm' =>
      cases s <;> cases t
      case positive.positive =>
        obtain ⟨rfl, rfl⟩ := eq_of_compare_scaled (Option.some.inj h)
        rfl
      case positive.negative => cases h
      case negative.positive => cases h
      case negative.negative =>
        obtain ⟨rfl, rfl⟩ := eq_of_compare_scaled (Ordering.swap_eq_eq.mp (Option.some.inj h))
        rfl

/-- The same double, or both zeros. -/
def Alike (x y : Float) : Prop :=
  plain x.toModel.unpack = plain y.toModel.unpack

theorem alike_of_valueOf_eq {x y : Float} (hx : x.isFinite = true) (hy : y.isFinite = true)
    (h : valueOf x = valueOf y) : Alike x y := by
  apply (isFinite_unpack hx).plain_eq (isFinite_unpack hy)
  rw [compare_unpack hx hy, compare_eq_iff_eq.mpr h]

theorem unpack_ne_zero {x : Float} (h : NonZero x) (s : Sign) : x.toModel.unpack ≠ .zero s := by
  intro hx
  rw [NonZero, beq_zero, hx] at h
  cases h

theorem alike_pack {u v : UnpackedFloat} (h : plain u = plain v) :
    Alike (.ofModel (.pack u)) (.ofModel (.pack v)) := by
  change plain (unpack .binary64 (pack .binary64 u)) = plain (unpack .binary64 (pack .binary64 v))
  rw [plain_unpack_pack u, h, ← plain_unpack_pack v]

theorem max_eq_ite (x y : Float) : max x y = if x ≤ y then y else x := rfl

namespace Alike

variable {x x' y y' : Float}

theorem sub (h : Alike x x') (h' : Alike y y') : Alike (x - y) (x' - y') := by
  unfold Alike at h h'
  apply alike_pack
  rw [plain_sub, h, h', ← plain_sub]

theorem mul (h : Alike x x') (h' : Alike y y') : Alike (x * y) (x' * y') := by
  unfold Alike at h h'
  apply alike_pack
  rw [plain_mul, h, h', ← plain_mul]

theorem neg (h : Alike x x') : Alike (-x) (-x') := by
  unfold Alike at h
  apply alike_pack
  rw [plain_neg, h, ← plain_neg]

theorem le_iff (h : Alike x x') (h' : Alike y y') : x ≤ y ↔ x' ≤ y' := by
  unfold Alike at h h'
  rw [le_iff_unpack, le_iff_unpack, UnpackedFloat.le, UnpackedFloat.le, ← compare_plain, h, h',
    compare_plain]

theorem max (h : Alike x x') (h' : Alike y y') : Alike (max x y) (max x' y') := by
  rw [max_eq_ite, max_eq_ite, if_congr (h.le_iff h') rfl rfl]
  split
  · exact h'
  · exact h

theorem add_eq (h : Alike x x') (h' : Alike y y') (hy : NonZero y) : x + y = x' + y' := by
  have hne := unpack_ne_zero hy
  apply congrArg (fun u => Float.ofModel (.pack u))
  rw [← eq_of_plain_eq _ hne h', add_of_ne_zero _ _ hne, h, ← add_of_ne_zero _ _ hne]

theorem sub_eq (h : Alike x x') (h' : Alike y y') (hy : NonZero y) : x - y = x' - y' := by
  have hne := unpack_ne_zero hy
  apply congrArg (fun u => Float.ofModel (.pack u))
  rw [← eq_of_plain_eq _ hne h', sub_of_ne_zero _ _ hne, h, ← sub_of_ne_zero _ _ hne]

end Alike

theorem le_of_zero {x c : Float} (hx : (x == 0.0) = true) (hc : 0.0 < c) : x ≤ c := by
  rw [beq_zero] at hx
  rw [le_iff_unpack]
  cases hu : x.toModel.unpack with
  | zero s =>
    rcases pos_iff.mp hc with hv | ⟨m, e, hm, hv⟩
    · rw [hv]
      rfl
    · rw [hv]
      rfl
  | infinity s => rw [hu] at hx; cases s <;> cases hx
  | notANumber => rw [hu] at hx; cases hx
  | finite s => rw [hu] at hx; cases s <;> cases hx

theorem nonZero_max (x : Float) {c : Float} (hc : 0.0 < c) : NonZero (max x c) := by
  rw [max_eq_ite]
  split
  · exact nonZero_of_pos hc
  · next hle => exact Bool.eq_false_iff.mpr fun hzero => hle (le_of_zero hzero hc)

end BenchCharts.Decimal

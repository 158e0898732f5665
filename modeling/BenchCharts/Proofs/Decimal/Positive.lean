import BenchCharts.Proofs.Decimal.Double

/-!
Positive doubles are finite or infinite and not zero. Divided by one, a number stays a number unless
both are infinite; what is no number stays none whatever it is divided by or multiplied with.
-/

namespace BenchCharts.Decimal

open Float.Model (UnpackedFloat)
open Float.Model.UnpackedFloat

theorem unpack_zero : (0.0 : Float).toModel.unpack = .zero .positive := by rfl

theorem pos_iff {x : Float} :
    0.0 < x ↔ x.toModel.unpack = .infinity .positive ∨
      ∃ m e hm, x.toModel.unpack = .finite .positive m e hm := by
  rw [lt_iff_unpack, unpack_zero]
  cases x.toModel.unpack with
  | infinity s =>
    cases s with
    | positive => exact iff_of_true rfl (.inl rfl)
    | negative => exact iff_of_false nofun nofun
  | notANumber => exact iff_of_false nofun nofun
  | zero s => exact iff_of_false nofun nofun
  | finite s m e hm =>
    cases s with
    | positive => exact iff_of_true rfl (.inr ⟨m, e, hm, rfl⟩)
    | negative => exact iff_of_false nofun nofun

/-- Neither of the two zeros. -/
def NonZero (x : Float) : Prop :=
  (x == 0.0) = false

theorem beq_zero (x : Float) : (x == 0.0) = UnpackedFloat.beq x.toModel.unpack (.zero .positive) :=
  congrArg (UnpackedFloat.beq x.toModel.unpack) unpack_zero

theorem nonZero_of_finite {x : Float} (h : ∃ s m e hm, x.toModel.unpack = .finite s m e hm) :
    NonZero x := by
  obtain ⟨s, m, e, hm, hx⟩ := h
  rw [NonZero, beq_zero, hx]
  cases s <;> rfl

theorem nonZero_of_pos {x : Float} (h : 0.0 < x) : NonZero x := by
  rcases pos_iff.mp h with hx | ⟨m, e, hm, hx⟩
  · rw [NonZero, beq_zero, hx]
    rfl
  · exact nonZero_of_finite ⟨.positive, m, e, hm, hx⟩

theorem unpack_of_isNaN {x : Float} (h : x.isNaN = true) : x.toModel.unpack = .notANumber := by
  have hx : x.toModel.unpack.isNaN = true := h
  cases hu : x.toModel.unpack with
  | notANumber => rfl
  | infinity => rw [hu] at hx; cases hx
  | zero => rw [hu] at hx; cases hx
  | finite => rw [hu] at hx; cases hx

theorem isNaN_div_of_isNaN {x : Float} (h : x.isNaN = true) (d : Float) :
    (x / d).isNaN = true := by
  rw [isNaN_div_eq, unpack_of_isNaN h]
  rfl

theorem isNaN_mul_of_isNaN {x : Float} (h : x.isNaN = true) (d : Float) :
    (x * d).isNaN = true := by
  rw [isNaN_mul_eq, unpack_of_isNaN h]
  rfl

theorem isNaN_div_of_pos {t : Float} (ht : 0.0 < t) (x : Float) :
    (x / t).isNaN = (x.isNaN || (x.isInf && t.isInf)) := by
  rcases pos_iff.mp ht with hu | ⟨m, e, hm, hu⟩
  · have hx : (x.isNaN || (x.isInf && t.isInf)) =
        (x.toModel.unpack.isNaN || (x.toModel.unpack.isInf && t.toModel.unpack.isInf)) := rfl
    rw [isNaN_div_eq, hx, hu]
    cases x.toModel.unpack <;> rfl
  · have hfinite : t.isInf = false := by
      change t.toModel.unpack.isInf = false
      rw [hu]
      rfl
    rw [isNaN_div ⟨.positive, m, e, hm, hu⟩, hfinite, Bool.and_false, Bool.or_false]

end BenchCharts.Decimal

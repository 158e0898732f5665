import BenchCharts.Decimal.Fixed
import BenchCharts.Proofs.Decimal.Natural
import BenchCharts.Text.Blank

/-!
The characters of a number with a fixed number of decimal places. None of them is a blank, and a
single sign is no number.
-/

namespace BenchCharts

/-- A visible character of ASCII. -/
def Text.IsGraphic (c : Char) : Prop :=
  0x20 < c.toNat ∧ c.toNat < 0x7F

theorem Text.IsGraphic.notBlank {c : Char} (h : IsGraphic c) : isBlank c = false := by
  obtain ⟨hfirst, hlast⟩ := h
  rw [isBlank, ← Bool.not_eq_true]
  simp only [Bool.or_eq_true, Bool.and_eq_true, beq_iff_eq, decide_eq_true_eq]
  omega

instance (c : Char) : Decidable (Text.IsGraphic c) :=
  inferInstanceAs (Decidable (_ ∧ _))

theorem Text.isGraphic_of_all {s : List Char} (h : (s.all fun c => decide (IsGraphic c)) = true) :
    ∀ c ∈ s, IsGraphic c :=
  fun c hc => of_decide_eq_true (List.all_eq_true.mp h c hc)

namespace Decimal

open Text

theorem isGraphic_of_isDigit {c : Char} (h : c.isDigit = true) : IsGraphic c := by
  obtain ⟨hzero, hnine⟩ := Char.isDigit_iff_toNat.mp h
  exact ⟨Nat.lt_of_lt_of_le (by decide) hzero, Nat.lt_of_le_of_lt hnine (by decide)⟩

theorem isGraphic_digits (n : Nat) : ∀ c ∈ digits n, IsGraphic c :=
  fun _ hc => isGraphic_of_isDigit (isDigit_of_mem_digits hc)

theorem isGraphic_paddedDigits (width n : Nat) : ∀ c ∈ paddedDigits width n, IsGraphic c := by
  refine List.forall_mem_append.mpr ⟨fun c hc => ?_, isGraphic_digits n⟩
  rw [List.eq_of_mem_replicate hc]
  exact isGraphic_of_isDigit (by decide)

theorem isGraphic_signText (negative : Bool) : ∀ c ∈ signText negative, IsGraphic c := by
  cases negative with
  | false => exact List.forall_mem_nil _
  | true => exact List.forall_mem_singleton.mpr ⟨by decide, by decide⟩

theorem isGraphic_fixedText (places : Nat) (x : Float) :
    ∀ c ∈ fixedText places x, IsGraphic c := by
  unfold fixedText
  cases Exact.ofFloat x with
  | nan =>
    have hnan : "NaN".toList.all fun c => decide (IsGraphic c) := by decide
    exact isGraphic_of_all hnan
  | infinite negative =>
    exact List.forall_mem_append.mpr ⟨isGraphic_signText negative, isGraphic_of_all (by decide)⟩
  | finite negative magnitude =>
    refine List.forall_mem_append.mpr ⟨List.forall_mem_append.mpr ⟨?_, ?_⟩, ?_⟩
    · exact isGraphic_signText negative
    · exact isGraphic_digits _
    · split
      · exact List.forall_mem_nil _
      · exact List.forall_mem_cons.mpr ⟨⟨by decide, by decide⟩, isGraphic_paddedDigits _ _⟩

theorem one_lt_length_fixedText {places : Nat} (h : places ≠ 0) (x : Float) :
    1 < (fixedText places x).length := by
  unfold fixedText
  cases Exact.ofFloat x with
  | nan => exact (by decide : 1 < 3)
  | infinite negative =>
    have hlength : "inf".toList.length = 3 := by decide
    rw [Exact.text, List.length_append, hlength]
    omega
  | finite negative magnitude =>
    obtain ⟨d, ds, hd, _⟩ := digits_eq_cons
      (roundHalfEven (magnitude * powTen places) / Nat.pow 10 places)
    dsimp only [Exact.text, fixed]
    rw [if_neg h, hd, List.length_append, List.length_append, List.length_cons, List.length_cons]
    omega

end Decimal

end BenchCharts

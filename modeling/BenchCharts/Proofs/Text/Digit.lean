import BenchCharts.Text.Blank
import BenchCharts.Text.Digit
import BenchCharts.Text.Word

/-!
Decimal digits of every script are word characters and no blanks.
-/

namespace BenchCharts.Text

/-- Whether each of some ranges lies in one of the others. -/
def covered (ranges ranges' : List (Nat × Nat)) : Bool :=
  ranges.all fun r => ranges'.any fun r' => r'.1.ble r.1 && r.2.ble r'.2

theorem inRanges_of_covered {ranges ranges' : List (Nat × Nat)} {n : Nat}
    (h : covered ranges ranges' = true) (hn : inRanges ranges n = true) :
    inRanges ranges' n = true := by
  obtain ⟨r, hr, hfirst, hlast⟩ := inRanges_iff.mp hn
  obtain ⟨r', hr', hcov⟩ := List.any_eq_true.mp (List.all_eq_true.mp h r hr)
  obtain ⟨hfirst', hlast'⟩ := Bool.and_eq_true_iff.mp hcov
  refine inRanges_iff.mpr ⟨r', hr', ?_, ?_⟩
  · exact Nat.le_trans (Nat.le_of_ble_eq_true hfirst') hfirst
  · exact Nat.le_trans hlast (Nat.le_of_ble_eq_true hlast')

theorem isWord_of_isDecimal {c : Char} (h : isDecimal c = true) : isWord c = true := by
  unfold isDecimal at h
  unfold isWord
  split at h
  · next hascii => simp [hascii, Char.isAlphanum, h]
  · next hascii =>
    rw [if_neg hascii]
    have hcovered : covered decimalRanges wordRanges = true := by decide +kernel
    exact inRanges_of_covered hcovered h

def blankRanges : List (Nat × Nat) := [
  (0x9, 0xD), (0x20, 0x20), (0x85, 0x85), (0xA0, 0xA0), (0x1680, 0x1680), (0x2000, 0x200A),
  (0x2028, 0x2029), (0x202F, 0x202F), (0x205F, 0x205F), (0x3000, 0x3000)]

theorem isBlank_eq_inRanges (c : Char) : isBlank c = inRanges blankRanges c.toNat := by
  apply Bool.eq_iff_iff.mpr
  simp only [isBlank, inRanges, blankRanges, List.any_cons, List.any_nil, Bool.or_eq_true,
    Bool.and_eq_true, beq_iff_eq, decide_eq_true_eq, Bool.or_false]
  omega

theorem isBlank_of_isDecimal {c : Char} (h : isDecimal c = true) : isBlank c = false := by
  apply Bool.eq_false_iff.mpr
  rw [isBlank_eq_inRanges]
  intro hb
  obtain ⟨b, hm, hfirst, hlast⟩ := inRanges_iff.mp hb
  unfold isDecimal at h
  split at h
  · have hfar : ∀ b ∈ blankRanges, b.2 < '0'.toNat ∨ '9'.toNat < b.1 := by decide
    have hdigit := Char.isDigit_iff_toNat.mp h
    have := hfar b hm
    omega
  · obtain ⟨r, hr, hfirst', hlast'⟩ := inRanges_iff.mp h
    have hfar : ∀ b ∈ blankRanges, ∀ r ∈ decimalRanges, b.2 < r.1 ∨ r.2 < b.1 := by
      decide +kernel
    have := hfar b hm r hr
    omega

end BenchCharts.Text

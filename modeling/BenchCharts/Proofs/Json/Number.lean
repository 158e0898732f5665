import BenchCharts.Json.Number
import BenchCharts.Proofs.Decimal.Natural
import BenchCharts.Proofs.Text.Search
import Mathlib.Data.List.Basic

/-!
Integers of 64 bits read back from their decimal text, as long as what follows cannot belong to the
number.
-/

namespace BenchCharts

namespace Json

open Decimal

theorem gather_eq {limit n : Nat} {ds : List Char} (h : Nat.ofDigitChars 10 ds n ≤ limit) :
    gather limit n ds = (Nat.ofDigitChars 10 ds n, 0) := by
  induction ds generalizing n with
  | nil => rfl
  | cons d ds ih =>
    rw [Nat.ofDigitChars_cons] at h
    have hnext : 10 * n + (d.toNat - '0'.toNat) ≤ limit := by
      rw [Nat.ofDigitChars_eq_ofDigitChars_zero] at h
      have hpow : 0 < 10 ^ ds.length := Nat.pow_pos (by decide)
      have hle := Nat.le_mul_of_pos_left (10 * n + (d.toNat - '0'.toNat)) hpow
      omega
    rw [gather, if_pos hnext, ih h, Nat.ofDigitChars_cons]

theorem gather_digits {limit n : Nat} (h : n ≤ limit) : gather limit 0 (digits n) = (n, 0) := by
  have hvalue : Nat.ofDigitChars 10 (digits n) 0 = n := Nat.ofDigitChars_ten_toDigits
  rw [gather_eq (hvalue.symm ▸ h), hvalue]

def EndsNumber (rest : List Char) : Prop :=
  ∀ c ∈ rest.head?, c.isDigit = false ∧ c ≠ '.' ∧ c ≠ 'e' ∧ c ≠ 'E'

theorem takeWhile_digits_append {rest : List Char} (h : EndsNumber rest) {ds : List Char}
    (hd : ∀ c ∈ ds, c.isDigit = true) :
    (ds ++ rest).takeWhile Char.isDigit = ds ∧ (ds ++ rest).dropWhile Char.isDigit = rest :=
  Text.span_append hd fun c hc => (h c hc).1

theorem readAfterWhole_eq {rest : List Char} (h : EndsNumber rest) (negative : Bool) (n : Nat) :
    readAfterWhole negative n 0 rest = .ok (integerOf negative n, rest) := by
  cases rest with
  | nil => rfl
  | cons c rest =>
    obtain ⟨_, hdot, he, hE⟩ := h c rfl
    unfold readAfterWhole
    split
    · next heq => exact absurd (List.cons.inj heq).1 hdot
    · dsimp only
      rw [if_neg (not_or.mpr ⟨he, hE⟩)]
      rfl

theorem readUnsigned_digits {n : Nat} (hn : n ≤ maxCount) {rest : List Char} (h : EndsNumber rest)
    (negative : Bool) :
    readUnsigned negative (digits n ++ rest) = .ok (integerOf negative n, rest) := by
  have hsplit := takeWhile_digits_append h fun c (hc : c ∈ digits n) => isDigit_of_mem_digits hc
  by_cases hzero : n = 0
  · subst hzero
    have hnone : rest.takeWhile Char.isDigit = [] := (Text.span_of_head fun c hc => (h c hc).1).1
    rw [show digits 0 ++ rest = '0' :: rest from rfl, readUnsigned, if_pos rfl, if_pos hnone]
    exact readAfterWhole_eq h negative 0
  · obtain ⟨d, ds, hd, hdigit, hhead⟩ := digits_eq_cons n
    rw [hd] at hsplit
    rw [hd, List.cons_append, readUnsigned, if_neg (hhead hzero), if_pos hdigit, ← List.cons_append,
      hsplit.1, hsplit.2, ← hd, gather_digits hn]
    exact readAfterWhole_eq h negative n

end Json

end BenchCharts

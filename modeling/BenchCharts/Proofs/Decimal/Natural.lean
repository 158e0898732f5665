import BenchCharts.Decimal.Natural
import BenchCharts.Proofs.Text.Search
import Mathlib.Data.List.Basic

/-!
The decimal text of a natural number: its digits, and the count that is read back from them. It is
told from what stands in front of it as long as that does not end in a digit.
-/

namespace BenchCharts.Decimal

theorem ne_of_isDigit {c x : Char} (h : c.isDigit = true) (hx : x.isDigit = false) : c ≠ x :=
  fun he => Bool.eq_false_iff.mp hx (he ▸ h)

theorem isDigit_of_mem_digits {n : Nat} {c : Char} (h : c ∈ digits n) : c.isDigit = true :=
  Nat.isDigit_of_mem_toDigits (by decide) (by decide) h

theorem head?_digits_ne {n : Nat} (h : n ≠ 0) : (digits n).head? ≠ some '0' := by
  induction n using Nat.strongRecOn with
  | _ n ih =>
    rw [digits, Nat.toDigits_eq_if (by decide)]
    split
    · next hn =>
      have hdigit : ∀ n < 10, n ≠ 0 → [n.digitChar].head? ≠ some '0' := by decide
      exact hdigit n hn h
    · next hn =>
      have hhead := ih (n / 10) (by omega) (by omega)
      rw [digits] at hhead
      cases hd : Nat.toDigits 10 (n / 10) with
      | nil => exact absurd hd Nat.toDigits_ne_nil
      | cons d ds =>
        rw [hd] at hhead
        exact hhead

theorem digits_eq_cons (n : Nat) :
    ∃ d ds, digits n = d :: ds ∧ d.isDigit = true ∧ (n ≠ 0 → d ≠ '0') := by
  have hne : digits n ≠ [] := Nat.toDigits_ne_nil
  obtain ⟨d, ds, hd⟩ := List.exists_cons_of_ne_nil hne
  refine ⟨d, ds, hd, isDigit_of_mem_digits (hd ▸ List.mem_cons_self), fun h he => ?_⟩
  apply head?_digits_ne h
  rw [hd, he]
  rfl

theorem valueOfDigits_digits (n : Nat) : valueOfDigits (digits n) = n :=
  Nat.ofDigitChars_ten_toDigits

theorem natural?_digits (n : Nat) : natural? (digits n) = some n := by
  have hdigits : (digits n).all Char.isDigit = true :=
    List.all_eq_true.mpr fun c hc => isDigit_of_mem_digits hc
  have hne : digits n ≠ [] := Nat.toDigits_ne_nil
  rw [natural?, if_pos ⟨hne, hdigits⟩, valueOfDigits_digits]

theorem digits_injective : Function.Injective digits := by
  intro m n h
  have hm := natural?_digits m
  rw [h, natural?_digits, Option.some.injEq] at hm
  exact hm.symm

theorem append_digits_inj {s t : List Char} {m n : Nat}
    (hs : ∀ c ∈ s.getLast?, c.isDigit = false) (ht : ∀ c ∈ t.getLast?, c.isDigit = false)
    (h : s ++ digits m = t ++ digits n) : s = t ∧ m = n := by
  have hrun {s : List Char} (hs : ∀ c ∈ s.getLast?, c.isDigit = false) (n : Nat) :
      (s ++ digits n).reverse.takeWhile Char.isDigit = (digits n).reverse := by
    rw [List.reverse_append]
    refine (Text.span_append (fun c hc => ?_) ?_).1
    · exact isDigit_of_mem_digits (List.mem_reverse.mp hc)
    · rwa [List.head?_reverse]
  have hdigits : digits m = digits n := by
    apply List.reverse_injective
    rw [← hrun hs, h, hrun ht]
  exact ⟨List.append_cancel_right (hdigits ▸ h), digits_injective hdigits⟩

theorem count?_eq {s : List Char} {n : Nat} (h : natural? s = some n) :
    count? s = if n ≤ maxCount then some n else none := by
  rw [count?, h, Option.filter_some]
  simp only [decide_eq_true_eq]

theorem count?_digits {n : Nat} (h : n ≤ maxCount) : count? (digits n) = some n :=
  (count?_eq (natural?_digits n)).trans (if_pos h)

end BenchCharts.Decimal

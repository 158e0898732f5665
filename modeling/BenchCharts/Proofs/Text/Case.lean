import BenchCharts.Text.Case
import Mathlib.Data.List.Basic

/-!
Lower-casing a text piece by piece. Whether a capital sigma ends a word shows at the nearest
character that is not passed over, so a character that is neither cased nor passed over parts a text
into pieces that can be lower-cased on their own.
-/

namespace BenchCharts.Text

/-- Neither a part of a word nor passed over in the search for one. -/
structure Parts (c : Char) : Prop where
  isCaseIgnorable_eq : isCaseIgnorable c = false
  isCased_eq : isCased c = false

theorem parts_underscore : Parts '_' := ⟨by decide +kernel, by decide⟩

variable {c : Char}

theorem meetsCased_append (h : Parts c) (s rest : List Char) :
    meetsCased (s ++ c :: rest) = meetsCased s := by
  induction s with
  | nil =>
    rw [List.nil_append, meetsCased,
      List.dropWhile_cons_of_neg (Bool.eq_false_iff.mp h.isCaseIgnorable_eq)]
    exact h.isCased_eq
  | cons d s ih =>
    cases hd : isCaseIgnorable d with
    | true =>
      unfold meetsCased at ih ⊢
      rw [List.cons_append, List.dropWhile_cons_of_pos hd, List.dropWhile_cons_of_pos hd]
      exact ih
    | false =>
      have hneg := Bool.eq_false_iff.mp hd
      rw [List.cons_append, meetsCased, meetsCased, List.dropWhile_cons_of_neg hneg,
        List.dropWhile_cons_of_neg hneg]

theorem lowerAfter_append (h : Parts c) (before front s : List Char) :
    lowerAfter (before ++ c :: front) s = lowerAfter before s := by
  induction s generalizing before with
  | nil => rfl
  | cons d s ih =>
    rw [lowerAfter, lowerAfter, meetsCased_append h, ← List.cons_append, ih]

theorem lowerAfter_parted (h : Parts c) (before s rest : List Char) :
    lowerAfter before (s ++ c :: rest) =
      lowerAfter before s ++ lowerAfter (s.reverse ++ before) (c :: rest) := by
  induction s generalizing before with
  | nil => rfl
  | cons d s ih =>
    rw [List.cons_append, lowerAfter, lowerAfter, meetsCased_append h, ih, List.append_assoc,
      List.reverse_cons, List.append_assoc, List.singleton_append]

theorem lower_append_underscore (s rest : List Char) :
    lower (s ++ '_' :: rest) = lower s ++ '_' :: lower rest := by
  have hrest := lowerAfter_append parts_underscore [] (s.reverse ++ []) rest
  rw [lower, lowerAfter_parted parts_underscore]
  exact congrArg (lower s ++ '_' :: ·) hrest

theorem mem_lower {s : List Char} (hc : c ∈ s) (hsigma : c ≠ 'Σ') (hsame : lowerChar c = [c]) :
    c ∈ lower s := by
  have hafter : ∀ before, c ∈ lowerAfter before s := by
    induction s with
    | nil => cases hc
    | cons d s ih =>
      intro before
      rw [lowerAfter, List.mem_append]
      rcases List.mem_cons.mp hc with rfl | hc
      · rw [if_neg hsigma, hsame]
        exact .inl (List.mem_singleton_self _)
      · exact .inr (ih hc _)
  exact hafter []

end BenchCharts.Text

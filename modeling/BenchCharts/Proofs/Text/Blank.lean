import BenchCharts.Text.Blank

/-!
What trimming leaves: a text that neither starts nor ends with a blank.
-/

namespace BenchCharts.Text

structure Trimmed (s : List Char) : Prop where
  head : ∀ c ∈ s.head?, isBlank c = false
  last : ∀ c ∈ s.getLast?, isBlank c = false

theorem isBlank_head_trimStart {s : List Char} {c : Char} (h : c ∈ (trimStart s).head?) :
    isBlank c = false := by
  induction s with
  | nil => cases h
  | cons d s ih =>
    rw [trimStart_cons] at h
    split at h
    · exact ih h
    · next hd =>
      cases h
      exact Bool.eq_false_iff.mpr hd

theorem trimEnd_eq_reverse (s : List Char) : trimEnd s = (trimStart s.reverse).reverse := rfl

theorem isBlank_last_trimEnd (s : List Char) : ∀ c ∈ (trimEnd s).getLast?, isBlank c = false := by
  intro c hc
  rw [trimEnd_eq_reverse, List.getLast?_reverse] at hc
  exact isBlank_head_trimStart hc

theorem trimEnd_prefix (s : List Char) : trimEnd s <+: s := by
  rw [trimEnd_eq_reverse, ← List.reverse_suffix, List.reverse_reverse]
  exact List.dropWhile_suffix _

theorem trimmed_trim (s : List Char) : Trimmed (trim s) where
  head := by
    intro c hc
    obtain ⟨rest, hr⟩ := trimEnd_prefix (trimStart s)
    apply isBlank_head_trimStart (s := s)
    rw [← hr, List.head?_append, Option.mem_def]
    exact Option.or_eq_some_iff.mpr (.inl hc)
  last := isBlank_last_trimEnd (trimStart s)

def AllBlank (w : List Char) : Prop :=
  ∀ c ∈ w, isBlank c = true

theorem AllBlank.reverse {w : List Char} (h : AllBlank w) : AllBlank w.reverse :=
  fun c hc => h c (List.mem_reverse.mp hc)

theorem AllBlank.notMem {w : List Char} (h : AllBlank w) {c : Char} (hc : isBlank c = false) :
    c ∉ w := by
  intro hm
  rw [h c hm] at hc
  cases hc

theorem trimStart_of_head {s : List Char} (h : ∀ c ∈ s.head?, isBlank c = false) :
    trimStart s = s := by
  cases s with
  | nil => rfl
  | cons c s => rw [trimStart_cons, h c rfl, if_neg Bool.false_ne_true]

theorem trimEnd_of_last {s : List Char} (h : ∀ c ∈ s.getLast?, isBlank c = false) :
    trimEnd s = s := by
  rw [← List.head?_reverse] at h
  rw [trimEnd_eq_reverse, trimStart_of_head h, List.reverse_reverse]

theorem trim_of_trimmed {s : List Char} (h : Trimmed s) : trim s = s := by
  rw [trim, trimStart_of_head h.head, trimEnd_of_last h.last]

theorem trimStart_append_of_allBlank {w : List Char} (h : AllBlank w) (s : List Char) :
    trimStart (w ++ s) = trimStart s :=
  List.dropWhile_append_of_pos h

theorem trimEnd_append_of_allBlank {w : List Char} (s : List Char) (h : AllBlank w) :
    trimEnd (s ++ w) = trimEnd s := by
  rw [trimEnd_eq_reverse, List.reverse_append, trimStart_append_of_allBlank h.reverse,
    ← trimEnd_eq_reverse]

theorem exists_allBlank_trimStart (s : List Char) :
    ∃ w, AllBlank w ∧ s = w ++ trimStart s := by
  refine ⟨s.takeWhile isBlank, fun c hc => ?_, List.takeWhile_append_dropWhile.symm⟩
  exact List.all_eq_true.mp List.all_takeWhile c hc

theorem exists_allBlank_trimEnd (s : List Char) : ∃ w, AllBlank w ∧ s = trimEnd s ++ w := by
  obtain ⟨w, hw, hs⟩ := exists_allBlank_trimStart s.reverse
  refine ⟨w.reverse, hw.reverse, ?_⟩
  rw [trimEnd_eq_reverse, ← List.reverse_append, ← hs, List.reverse_reverse]

theorem mem_trim {s : List Char} {c : Char} (hc : isBlank c = false) (h : c ∈ s) :
    c ∈ trim s := by
  obtain ⟨w, hw, hs⟩ := exists_allBlank_trimStart s
  obtain ⟨w', hw', hs'⟩ := exists_allBlank_trimEnd (trimStart s)
  rw [hs] at h
  have hstart : c ∈ trimStart s := (List.mem_append.mp h).resolve_left (hw.notMem hc)
  rw [hs'] at hstart
  exact (List.mem_append.mp hstart).resolve_right (hw'.notMem hc)

theorem trimStart_append_of_head {c : Char} (hc : isBlank c = false) (s rest : List Char) :
    trimStart (s ++ c :: rest) = trimStart s ++ c :: rest := by
  induction s with
  | nil => rw [List.nil_append, trimStart_cons, hc, if_neg Bool.false_ne_true]; rfl
  | cons d s ih =>
    rw [List.cons_append, trimStart_cons, trimStart_cons]
    split
    · exact ih
    · rfl

theorem isPrefix_trimEnd {s t : List Char} {c : Char} (hc : isBlank c = false)
    (hlast : s.getLast? = some c) (h : s <+: t) : s <+: trimEnd t := by
  obtain ⟨front, rfl⟩ := List.getLast?_eq_some_iff.mp hlast
  obtain ⟨rest, rfl⟩ := h
  refine ⟨trimEnd rest, ?_⟩
  rw [trimEnd_eq_reverse, trimEnd_eq_reverse, List.reverse_append, List.reverse_concat,
    trimStart_append_of_head hc, List.reverse_append, List.reverse_cons, List.reverse_reverse]

end BenchCharts.Text

import BenchCharts.Text.Search
import Mathlib.Data.List.Basic

/-!
The leftmost match of a form: it matches there, and it matches at no place in front. A run of
characters of one kind ends where another character stands.
-/

namespace BenchCharts.Text

variable {form : List Char → Option (α × List Char)}

theorem span_append {p : Char → Bool} {s rest : List Char} (hs : ∀ c ∈ s, p c = true)
    (hrest : ∀ c ∈ rest.head?, p c = false) :
    (s ++ rest).takeWhile p = s ∧ (s ++ rest).dropWhile p = rest := by
  rw [List.takeWhile_append_of_pos hs, List.dropWhile_append_of_pos hs]
  cases rest with
  | nil => exact ⟨List.append_nil _, rfl⟩
  | cons c rest =>
    have hc := Bool.eq_false_iff.mp (hrest c rfl)
    rw [List.takeWhile_cons_of_neg hc, List.dropWhile_cons_of_neg hc, List.append_nil]
    exact ⟨rfl, rfl⟩

theorem span_of_head {p : Char → Bool} {s : List Char} (h : ∀ c ∈ s.head?, p c = false) :
    s.takeWhile p = [] ∧ s.dropWhile p = s :=
  span_append (List.forall_mem_nil _) h

theorem suffix_append_cases {u s v : List Char} (h : v <:+ u ++ s) :
    (∃ v', v' ≠ [] ∧ v' <:+ u ∧ v = v' ++ s) ∨ v <:+ s := by
  obtain ⟨p, hp⟩ := h
  obtain ⟨v', hu, hv⟩ | ⟨p', -, hs⟩ := List.append_eq_append_iff.mp hp
  · by_cases hnil : v' = []
    · rw [hv, hnil, List.nil_append]
      exact .inr (List.suffix_refl s)
    · exact .inl ⟨v', hnil, ⟨p, hu.symm⟩, hv⟩
  · exact .inr ⟨p', hs.symm⟩

theorem leftmost?_of_form {s rest : List Char} {a : α} (h : form s = some (a, rest)) :
    leftmost? form s = some ⟨[], a, rest⟩ := by
  cases s with
  | nil => rw [leftmost?, h]; rfl
  | cons c s => rw [leftmost?, h]

theorem leftmost?_append {u s : List Char} (h : ∀ v, v ≠ [] → v <:+ u → form (v ++ s) = none) :
    leftmost? form (u ++ s) =
      (leftmost? form s).map fun m => { m with before := u ++ m.before } := by
  induction u with
  | nil => simp
  | cons c u ih =>
    have hhere : form (c :: (u ++ s)) = none :=
      h (c :: u) (List.cons_ne_nil c u) (List.suffix_refl _)
    have hrest := ih fun v hne hv => h v hne (hv.trans (List.suffix_cons c u))
    rw [List.cons_append, leftmost?, hhere, hrest, Option.map_map]
    rfl

theorem leftmost?_eq_none_iff {s : List Char} :
    leftmost? form s = none ↔ ∀ v, v <:+ s → form v = none := by
  induction s with
  | nil => simp [leftmost?]
  | cons c s ih =>
    rw [leftmost?]
    constructor
    · intro h v hv
      split at h
      · cases h
      · next hhere =>
        rw [Option.map_eq_none_iff] at h
        rcases List.suffix_cons_iff.mp hv with rfl | hv
        · exact hhere
        · exact ih.mp h v hv
    · intro h
      rw [h (c :: s) (List.suffix_refl _)]
      exact Option.map_eq_none_iff.mpr
        (ih.mpr fun v hv => h v (hv.trans (List.suffix_cons c s)))

theorem leftmost?_eq_some_iff {s : List Char} {m : Match α} :
    leftmost? form s = some m ↔
      ∃ rest, s = m.before ++ rest ∧ form rest = some (m.value, m.after) ∧
        ∀ v, v ≠ [] → v <:+ m.before → form (v ++ rest) = none := by
  constructor
  · intro h
    induction s generalizing m with
    | nil =>
      obtain ⟨⟨a, rest⟩, hf, rfl⟩ := Option.map_eq_some_iff.mp h
      exact ⟨[], rfl, hf, fun v hne hv => (hne (List.suffix_nil.mp hv)).elim⟩
    | cons c s ih =>
      rw [leftmost?] at h
      split at h
      · next a rest hf =>
        cases h
        exact ⟨c :: s, rfl, hf, fun v hne hv => (hne (List.suffix_nil.mp hv)).elim⟩
      · next hhere =>
        obtain ⟨m', hm, rfl⟩ := Option.map_eq_some_iff.mp h
        obtain ⟨rest, rfl, hf, hnone⟩ := ih hm
        refine ⟨rest, rfl, hf, fun v hne hv => ?_⟩
        rcases List.suffix_cons_iff.mp hv with rfl | hv
        · exact hhere
        · exact hnone v hne hv
  · rintro ⟨rest, rfl, hf, hnone⟩
    rw [leftmost?_append hnone, leftmost?_of_form hf, Option.map_some, List.append_nil]

end BenchCharts.Text

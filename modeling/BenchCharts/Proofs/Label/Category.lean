import BenchCharts.Proofs.Label.Notation

/-!
What stands in front of a notation: a category, and behind it blanks and arrows that do not belong
to it. Stripping them ends, and it ends at the category.
-/

namespace BenchCharts.Label

open Text

/-- A run of blanks and arrows. -/
inductive Filler : List Char → Prop
  | nil : Filler []
  | blank {s c} (hs : Filler s) (hc : isBlank c = true) : Filler (s ++ [c])
  | arrow {s a} (hs : Filler s) (ha : IsArrow a) : Filler (s ++ a)

def EndsInArrow (s : List Char) : Prop :=
  ∃ a, IsArrow a ∧ a <:+ s

/-- Arrows are taken off the end of a text, and the blanks in front of each, until none is there;
`Strips s u` says that this ends, with `u`. -/
inductive Strips : List Char → List Char → Prop
  | done {s} (h : ¬ EndsInArrow s) : Strips s s
  | step {s a u} (ha : IsArrow a) (h : Strips (trimEnd s) u) : Strips (s ++ a) u

theorem Filler.append_blanks {s w : List Char} (hs : Filler s) (hw : AllBlank w) :
    Filler (s ++ w) := by
  induction w generalizing s with
  | nil => rwa [List.append_nil]
  | cons c w ih =>
    obtain ⟨hc, hw⟩ := List.forall_mem_cons.mp hw
    rw [← List.singleton_append, ← List.append_assoc]
    exact ih (hs.blank hc) hw

theorem IsArrow.isBlank_last {a : List Char} (h : IsArrow a) (s : List Char) :
    ∀ c ∈ (s ++ a).getLast?, isBlank c = false := by
  intro c hc
  rw [List.getLast?_append] at hc
  cases h <;> cases hc <;> rfl

theorem dropArrow?_eq_some_iff {s r : List Char} :
    dropArrow? s = some r ↔ ∃ a, IsArrow a ∧ s = r ++ a := by
  unfold dropArrow?
  constructor
  · intro h
    split at h
    · next t ht =>
      cases h
      refine ⟨_, .long, ?_⟩
      rw [← List.reverse_reverse s, ht]
      simp
    · next t ht =>
      cases h
      refine ⟨_, .short, ?_⟩
      rw [← List.reverse_reverse s, ht]
      simp
    · cases h
  · rintro ⟨a, ha, rfl⟩
    cases ha <;> simp

theorem dropArrow?_eq_none_iff {s : List Char} : dropArrow? s = none ↔ ¬ EndsInArrow s := by
  rw [Option.eq_none_iff_forall_ne_some]
  constructor
  · rintro h ⟨a, ha, ⟨r, rfl⟩⟩
    exact h r (dropArrow?_eq_some_iff.mpr ⟨a, ha, rfl⟩)
  · intro h r hr
    obtain ⟨a, ha, rfl⟩ := dropArrow?_eq_some_iff.mp hr
    exact h ⟨a, ha, List.suffix_append r a⟩

theorem dropArrows_of_some {s r : List Char} (h : dropArrow? s = some r) :
    dropArrows s = dropArrows (trimEnd r) := by
  rw [dropArrows]
  split
  · next r' h' =>
    rw [h] at h'
    cases h'
    rfl
  · next h' =>
    rw [h] at h'
    cases h'

theorem dropArrows_of_none {s : List Char} (h : dropArrow? s = none) : dropArrows s = s := by
  rw [dropArrows]
  split
  · next r h' =>
    rw [h] at h'
    cases h'
  · rfl

theorem strips_iff {s u : List Char} : Strips s u ↔ dropArrows s = u := by
  constructor
  · intro h
    induction h with
    | done h => exact dropArrows_of_none (dropArrow?_eq_none_iff.mpr h)
    | @step s a u ha _ ih =>
      exact (dropArrows_of_some (dropArrow?_eq_some_iff.mpr ⟨a, ha, rfl⟩)).trans ih
  · rintro rfl
    induction s using dropArrows.induct with
    | case1 s r h ih =>
      rw [dropArrows_of_some h]
      obtain ⟨a, ha, rfl⟩ := dropArrow?_eq_some_iff.mp h
      exact .step ha ih
    | case2 s h =>
      rw [dropArrows_of_none h]
      exact .done (dropArrow?_eq_none_iff.mp h)

theorem Strips.not_endsInArrow {s u : List Char} (h : Strips s u) : ¬ EndsInArrow u := by
  induction h with
  | done h => exact h
  | step _ _ ih => exact ih

theorem Strips.exists_filler {s u : List Char} (h : Strips s u) : ∃ r, Filler r ∧ s = u ++ r := by
  induction h with
  | done _ => exact ⟨[], .nil, (List.append_nil _).symm⟩
  | @step s a u ha _ ih =>
    obtain ⟨r, hr, hs⟩ := ih
    obtain ⟨w, hw, hws⟩ := exists_allBlank_trimEnd s
    refine ⟨r ++ w ++ a, (hr.append_blanks hw).arrow ha, ?_⟩
    rw [hws, hs]
    simp

theorem Strips.isBlank_last {s u : List Char} (h : Strips s u)
    (hs : ∀ c ∈ s.getLast?, isBlank c = false) : ∀ c ∈ u.getLast?, isBlank c = false := by
  induction h with
  | done _ => exact hs
  | @step s _ _ _ _ ih => exact ih (isBlank_last_trimEnd s)

/-- The category is what is left of a text that starts with no blank when the blanks and arrows at
its end are taken off. -/
theorem categoryOf_split {s : List Char} (h : ∀ c ∈ s.head?, isBlank c = false) :
    ∃ r, s = categoryOf s ++ r ∧ Filler r ∧ Trimmed (categoryOf s) ∧
      ¬ EndsInArrow (categoryOf s) := by
  have hstrips : Strips (trimEnd s) (dropArrows (trimEnd s)) := strips_iff.mpr rfl
  obtain ⟨r, hr, hs⟩ := hstrips.exists_filler
  obtain ⟨w, hw, hws⟩ := exists_allBlank_trimEnd s
  have hsplit : s = dropArrows (trimEnd s) ++ (r ++ w) := by
    rw [← List.append_assoc, ← hs, ← hws]
  have htrimmed : Trimmed (dropArrows (trimEnd s)) := by
    refine ⟨fun c hc => h c ?_, hstrips.isBlank_last (isBlank_last_trimEnd s)⟩
    rw [hsplit, List.head?_append]
    exact Option.or_eq_some_iff.mpr (.inl hc)
  rw [categoryOf, trim_of_trimmed htrimmed]
  exact ⟨r ++ w, hsplit, hr.append_blanks hw, htrimmed, hstrips.not_endsInArrow⟩

theorem Filler.strips {c r : List Char} (hr : Filler r) (hc : Trimmed c) (ha : ¬ EndsInArrow c) :
    Strips (trimEnd (c ++ r)) c := by
  induction hr with
  | nil =>
    rw [List.append_nil, trimEnd_of_last hc.last]
    exact .done ha
  | blank hs hb ih =>
    have hblank : AllBlank [_] := List.forall_mem_singleton.mpr hb
    rwa [← List.append_assoc, trimEnd_append_of_allBlank _ hblank]
  | arrow hs harrow ih =>
    rw [← List.append_assoc, trimEnd_of_last (harrow.isBlank_last _)]
    exact .step harrow ih

theorem categoryOf_append {c r : List Char} (hc : Trimmed c) (ha : ¬ EndsInArrow c)
    (hr : Filler r) : categoryOf (c ++ r) = c := by
  rw [categoryOf, strips_iff.mp (hr.strips hc ha), trim_of_trimmed hc]

end BenchCharts.Label

import BenchCharts.Proofs.Label.Category

/-!
How a label is split: by the first of the notations whose leftmost text has a count, into a category
and what does not belong to it. A label without such a notation is a category as a whole.
-/

namespace BenchCharts.Label

open Text Decimal

def Notation.HasCount (n : Notation) (s : List Char) : Prop :=
  ∃ before text digits after count, n.Leftmost s before text digits after ∧
    count? digits = some count

theorem Notation.hasCount_iff {n : Notation} {s : List Char} :
    n.HasCount s ↔ ∃ m count, leftmost? n.form? s = some m ∧ count? m.value = some count := by
  constructor
  · rintro ⟨before, text, digits, after, count, hl, hc⟩
    exact ⟨⟨before, digits, after⟩, count, leftmost?_eq_some_iff.mpr ⟨text, hl⟩, hc⟩
  · rintro ⟨m, count, hm, hc⟩
    obtain ⟨text, hl⟩ := leftmost?_eq_some_iff.mp hm
    exact ⟨m.before, text, m.value, m.after, count, hl, hc⟩

theorem byNotation?_of_leftmost {n : Notation} {s before text digits after : List Char}
    {count : Nat} (hl : n.Leftmost s before text digits after) (hc : count? digits = some count) :
    byNotation? s n = some ⟨String.ofList (categoryOf before), some count⟩ := by
  have hm : leftmost? n.form? s = some ⟨before, digits, after⟩ :=
    Notation.leftmost?_eq_some_iff.mpr ⟨text, hl⟩
  rw [byNotation?, hm, Option.bind_eq_bind, Option.bind_some, hc]
  rfl

theorem byNotation?_eq_none_iff {n : Notation} {s : List Char} :
    byNotation? s n = none ↔ ¬ n.HasCount s := by
  rw [Notation.hasCount_iff]
  constructor
  · rintro hnone ⟨m, count, hm, hc⟩
    obtain ⟨text, hl⟩ := Notation.leftmost?_eq_some_iff.mp hm
    rw [byNotation?_of_leftmost hl hc] at hnone
    cases hnone
  · intro h
    apply Option.eq_none_iff_forall_ne_some.mpr
    intro label hlabel
    obtain ⟨m, hm, hcount⟩ := Option.bind_eq_some_iff.mp hlabel
    obtain ⟨count, hc, _⟩ := Option.bind_eq_some_iff.mp hcount
    exact h ⟨m, count, hm, hc⟩

theorem ofText_of_leftmost {s before text digits after : List Char} {earlier later : List Notation}
    {n : Notation} {count : Nat} (hn : notations = earlier ++ n :: later)
    (hearlier : ∀ n' ∈ earlier, ¬ n'.HasCount (trim s))
    (hl : n.Leftmost (trim s) before text digits after) (hc : count? digits = some count) :
    ofText s = ⟨String.ofList (categoryOf before), some count⟩ := by
  have hnone : earlier.findSome? (byNotation? (trim s)) = none :=
    List.findSome?_eq_none_iff.mpr fun n' hm => byNotation?_eq_none_iff.mpr (hearlier n' hm)
  unfold ofText
  dsimp only
  rw [hn, List.findSome?_append, hnone, Option.none_or, List.findSome?_cons,
    byNotation?_of_leftmost hl hc, Option.getD_some]

theorem ofText_of_not_hasCount {s : List Char} (h : ∀ n : Notation, ¬ n.HasCount (trim s)) :
    ofText s = ⟨String.ofList (trim s), none⟩ := by
  have hnone : notations.findSome? (byNotation? (trim s)) = none :=
    List.findSome?_eq_none_iff.mpr fun n _ => byNotation?_eq_none_iff.mpr (h n)
  unfold ofText
  dsimp only
  rw [hnone, Option.getD_none]

/-- A label is taken apart at the leftmost text of the first notation whose digits are a count, and
what is dropped in front of that are blanks and arrows; stripping them ends on every text. -/
theorem ofText_split (s : List Char) :
    (∀ (earlier : List Notation) (n : Notation) (later : List Notation),
        [.arrowParenthesis, .trailingParenthesis, .arrow] = earlier ++ n :: later →
        (∀ n' ∈ earlier, ¬ n'.HasCount (trim s)) →
        ∀ before text digits after count, n.Leftmost (trim s) before text digits after →
          count? digits = some count →
          (ofText s).count = some count ∧
            ∃ r, trim s = (ofText s).category.toList ++ r ++ text ++ after ∧ Filler r ∧
              Trimmed (ofText s).category.toList ∧ ¬ EndsInArrow (ofText s).category.toList) ∧
      ((∀ n : Notation, ¬ n.HasCount (trim s)) → ofText s = ⟨String.ofList (trim s), none⟩) ∧
      ∀ front, ∃ u, Strips (trimEnd front) u ∧ categoryOf front = trim u := by
  refine ⟨?_, ofText_of_not_hasCount, fun front => ⟨_, strips_iff.mpr rfl, rfl⟩⟩
  intro earlier n later hn hearlier before text digits after count hl hc
  have hlabel : ofText s = ⟨String.ofList (categoryOf before), some count⟩ :=
    ofText_of_leftmost hn hearlier hl hc
  have ht : trim s = before ++ text ++ after := hl.split
  have hhead : ∀ c ∈ before.head?, isBlank c = false := by
    intro c hc
    apply (trimmed_trim s).head
    rw [ht, List.append_assoc, List.head?_append]
    exact Option.or_eq_some_iff.mpr (.inl hc)
  obtain ⟨r, hr, hfiller, htrimmed, harrow⟩ := categoryOf_split hhead
  rw [hlabel, String.toList_ofList]
  refine ⟨rfl, r, ?_, hfiller, htrimmed, harrow⟩
  rw [← hr]
  exact ht

/-- A count of more than 64 bits leaves the label to the next notation, and only the last arrow is
no part of the category. -/
theorem ofText_split_overflow :
    let s := " a → (99999999999999999999) -> (7) ".toList
    let before := "a → (99999999999999999999) -> ".toList
    ¬ Notation.arrowParenthesis.HasCount (trim s) ∧
      Notation.trailingParenthesis.Leftmost (trim s) before ['(', '7', ')'] ['7'] [] ∧
      (ofText s).count = some 7 ∧ (ofText s).category = "a → (99999999999999999999)" ∧
      ∃ r, trim s = (ofText s).category.toList ++ r ++ ['(', '7', ')'] ++ [] ∧ Filler r := by
  intro s before
  have hover : ¬ Notation.arrowParenthesis.HasCount (trim s) := by
    have hm : leftmost? Notation.arrowParenthesis.form? (trim s) =
        some ⟨['a', ' '], "99999999999999999999".toList, " -> (7)".toList⟩ := by
      decide +kernel
    have hnone : count? "99999999999999999999".toList = none := by decide +kernel
    rw [Notation.hasCount_iff]
    rintro ⟨m, count, hm', hc⟩
    rw [hm] at hm'
    cases hm'
    rw [hnone] at hc
    cases hc
  have hl : Notation.trailingParenthesis.Leftmost (trim s) before ['(', '7', ')'] ['7'] [] := by
    have hm : leftmost? Notation.trailingParenthesis.form? (trim s) = some ⟨before, ['7'], []⟩ := by
      decide +kernel
    obtain ⟨text, hl⟩ := Notation.leftmost?_eq_some_iff.mp hm
    have ht : before ++ (['(', '7', ')'] ++ []) = before ++ (text ++ []) := by
      rw [← List.append_assoc before text, ← hl.split]
      decide +kernel
    rwa [← List.append_cancel_right (List.append_cancel_left ht)] at hl
  obtain ⟨hsplit, -, -⟩ := ofText_split s
  obtain ⟨hcount, r, ht, hr, -, -⟩ := hsplit [.arrowParenthesis] .trailingParenthesis [.arrow] rfl
    (List.forall_mem_singleton.mpr hover) _ _ _ _ 7 hl rfl
  exact ⟨hover, hl, hcount, by decide +kernel, r, ht, hr⟩

end BenchCharts.Label

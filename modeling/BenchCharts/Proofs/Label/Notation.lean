import BenchCharts.Label
import BenchCharts.Pattern
import BenchCharts.Proofs.Text.Blank
import BenchCharts.Proofs.Text.Digit
import BenchCharts.Proofs.Text.Search

/-!
The texts of each notation, said without a reader: the reader of a notation accepts exactly these,
and the place that it picks in a label is the leftmost one where such a text stands.
-/

namespace BenchCharts.Label

open Text Decimal

inductive IsArrow : List Char → Prop
  | long : IsArrow ['-', '>']
  | short : IsArrow ['→']

def IsNumeral (ds : List Char) : Prop :=
  ds ≠ [] ∧ ∀ c ∈ ds, isDecimal c = true

/-- A numeral between parentheses, with blanks around it. -/
inductive Parenthesized : (text digits : List Char) → Prop
  | mk {w ds w'} (hw : AllBlank w) (hd : IsNumeral ds) (hw' : AllBlank w') :
      Parenthesized ('(' :: (w ++ ds ++ w' ++ [')'])) ds

/-- The texts of a notation and the digits of their count, in front of `rest`. The numeral of a
plain arrow ends at a word boundary. -/
inductive Notation.Writes : Notation → (text digits rest : List Char) → Prop
  | arrowParenthesis {a w p ds rest} (ha : IsArrow a) (hw : AllBlank w) (hp : Parenthesized p ds) :
      Writes .arrowParenthesis (a ++ w ++ p) ds rest
  | trailingParenthesis {p ds w} (hp : Parenthesized p ds) (hw : AllBlank w) :
      Writes .trailingParenthesis (p ++ w) ds []
  | arrow {a w ds rest} (ha : IsArrow a) (hw : AllBlank w) (hd : IsNumeral ds)
      (hb : Pattern.Place.atBoundary ⟨ds.getLast?, rest⟩ = true) :
      Writes .arrow (a ++ w ++ ds) ds rest

/-- A text of a notation within a label. -/
structure Notation.Occurs (n : Notation) (s before text digits after : List Char) : Prop where
  split : s = before ++ text ++ after
  writes : n.Writes text digits after

/-- The first place of a label where a text of a notation stands. -/
structure Notation.Leftmost (n : Notation) (s before text digits after : List Char) : Prop
    extends n.Occurs s before text digits after where
  first : ∀ before' text' digits' after', n.Occurs s before' text' digits' after' →
    before.length ≤ before'.length

theorem IsArrow.isBlank_head {a : List Char} (h : IsArrow a) (s : List Char) :
    ∀ c ∈ (a ++ s).head?, isBlank c = false := by
  intro c hc
  cases h <;> cases hc <;> rfl

theorem skipArrow?_eq_some_iff {s r : List Char} :
    skipArrow? s = some r ↔ ∃ a, IsArrow a ∧ s = a ++ r := by
  constructor
  · intro h
    unfold skipArrow? at h
    split at h
    · cases h
      exact ⟨_, .long, rfl⟩
    · cases h
      exact ⟨_, .short, rfl⟩
    · cases h
  · rintro ⟨a, ha, rfl⟩
    cases ha <;> rfl

theorem skipArrow?_eq_none_iff {s : List Char} :
    skipArrow? s = none ↔ ∀ a r, IsArrow a → s ≠ a ++ r := by
  rw [Option.eq_none_iff_forall_ne_some]
  constructor
  · intro h a r ha hs
    exact h r (skipArrow?_eq_some_iff.mpr ⟨a, ha, hs⟩)
  · intro h r hr
    obtain ⟨a, ha, hs⟩ := skipArrow?_eq_some_iff.mp hr
    exact h a r ha hs

theorem IsNumeral.trimStart_append {ds : List Char} (h : IsNumeral ds) {w : List Char}
    (hw : AllBlank w) (s : List Char) : trimStart (w ++ ds ++ s) = ds ++ s := by
  obtain ⟨hne, hds⟩ := h
  rw [List.append_assoc, trimStart_append_of_allBlank hw]
  apply trimStart_of_head
  intro c hc
  apply isBlank_of_isDecimal
  apply hds
  cases ds with
  | nil => exact (hne rfl).elim
  | cons d ds =>
    cases hc
    exact List.mem_cons_self

theorem takeDigits?_eq_some_iff {s ds r : List Char} :
    takeDigits? s = some (ds, r) ↔
      s = ds ++ r ∧ IsNumeral ds ∧ ∀ c ∈ r.head?, isDecimal c = false := by
  constructor
  · intro h
    unfold takeDigits? at h
    dsimp only at h
    split at h
    · cases h
    · next hne =>
      cases h
      refine ⟨List.takeWhile_append_dropWhile.symm, ⟨hne, fun c hc => ?_⟩, fun c hc => ?_⟩
      · exact List.all_eq_true.mp List.all_takeWhile c hc
      · have hhead := List.head?_dropWhile_not isDecimal s
        rw [Option.mem_def.mp hc] at hhead
        exact hhead
  · rintro ⟨rfl, ⟨hne, hds⟩, hr⟩
    obtain ⟨htake, hdrop⟩ := span_append hds hr
    unfold takeDigits?
    rw [htake, hdrop, if_neg hne]

theorem skip?_singleton_eq_some_iff {c : Char} {s r : List Char} :
    skip? [c] s = some r ↔ s = c :: r := by
  constructor
  · intro h
    cases s with
    | nil => cases h
    | cons d s =>
      rw [skip?] at h
      split at h
      · next hp =>
        have hcd : c = d := by simpa using hp
        cases h
        rw [hcd]
        rfl
      · cases h
  · rintro rfl
    exact skip?_append [c] r

theorem parenthesized?_eq_some_iff {s ds r : List Char} :
    parenthesized? s = some (ds, r) ↔ ∃ p, Parenthesized p ds ∧ s = p ++ r := by
  constructor
  · intro h
    obtain ⟨s₁, h₁, h⟩ := Option.bind_eq_some_iff.mp h
    obtain ⟨⟨ds', s₂⟩, h₂, h⟩ := Option.bind_eq_some_iff.mp h
    obtain ⟨s₃, h₃, h⟩ := Option.bind_eq_some_iff.mp h
    cases h
    obtain ⟨hs₁, hd, _⟩ := takeDigits?_eq_some_iff.mp h₂
    obtain ⟨w, hw, hws⟩ := exists_allBlank_trimStart s₁
    obtain ⟨w', hw', hws'⟩ := exists_allBlank_trimStart s₂
    have hclose : trimStart s₂ = ')' :: r := skip?_singleton_eq_some_iff.mp h₃
    refine ⟨_, .mk hw hd hw', ?_⟩
    calc s = '(' :: s₁ := skip?_singleton_eq_some_iff.mp h₁
      _ = '(' :: (w ++ (ds ++ s₂)) := by rw [← hs₁, ← hws]
      _ = '(' :: (w ++ (ds ++ (w' ++ ')' :: r))) := by rw [← hclose, ← hws']
      _ = '(' :: (w ++ ds ++ w' ++ [')']) ++ r := by simp
  · rintro ⟨p, hp, rfl⟩
    obtain ⟨hw, hd, hw'⟩ := hp
    rename_i w w'
    have hclose : trimStart (w' ++ ')' :: r) = ')' :: r := by
      rw [trimStart_append_of_allBlank hw']
      rfl
    have hdigits : takeDigits? (ds ++ (w' ++ ')' :: r)) = some (ds, w' ++ ')' :: r) := by
      refine takeDigits?_eq_some_iff.mpr ⟨rfl, hd, ?_⟩
      cases w' with
      | nil =>
        intro c hc
        cases hc
        rfl
      | cons b w' =>
        intro c hc
        cases hc
        apply Bool.eq_false_iff.mpr
        intro hdec
        exact hw'.notMem (isBlank_of_isDecimal hdec) List.mem_cons_self
    have hopen : '(' :: (w ++ ds ++ w' ++ [')']) ++ r = '(' :: (w ++ ds ++ (w' ++ ')' :: r)) := by
      simp
    rw [hopen, parenthesized?, skip?_singleton_eq_some_iff.mpr rfl]
    simp only [Option.bind_eq_bind, Option.bind_some, hd.trimStart_append hw, hdigits, hclose]
    rw [skip?_singleton_eq_some_iff.mpr rfl]
    rfl

theorem IsNumeral.atBoundary_eq {ds : List Char} (h : IsNumeral ds) (rest : List Char) :
    Pattern.Place.atBoundary ⟨ds.getLast?, rest⟩ = endsWord rest := by
  obtain ⟨hne, hds⟩ := h
  have hword := isWord_of_isDecimal (hds _ (List.getLast_mem hne))
  rw [Pattern.Place.atBoundary, List.getLast?_eq_some_getLast hne, Option.any_some, hword]
  cases endsWord rest <;> rfl

theorem isDecimal_head_of_endsWord {s : List Char} (h : endsWord s = true) :
    ∀ c ∈ s.head?, isDecimal c = false := by
  intro c hc
  apply Bool.eq_false_iff.mpr
  intro hdec
  cases s with
  | nil => cases hc
  | cons d s =>
    cases hc
    rw [endsWord_cons, isWord_of_isDecimal hdec] at h
    cases h

theorem Parenthesized.isBlank_head {p ds : List Char} (h : Parenthesized p ds) (s : List Char) :
    ∀ c ∈ (p ++ s).head?, isBlank c = false := by
  intro c hc
  cases h
  cases hc
  rfl

namespace Notation

theorem form?_eq_some_iff {n : Notation} {s ds rest : List Char} :
    n.form? s = some (ds, rest) ↔ ∃ text, s = text ++ rest ∧ n.Writes text ds rest := by
  cases n with
  | arrowParenthesis =>
    constructor
    · intro hform
      obtain ⟨r, hr, hparen⟩ := Option.bind_eq_some_iff.mp hform
      obtain ⟨a, ha, hs⟩ := skipArrow?_eq_some_iff.mp hr
      obtain ⟨p, hp, hskip⟩ := parenthesized?_eq_some_iff.mp hparen
      obtain ⟨w, hw, hwr⟩ := exists_allBlank_trimStart r
      refine ⟨_, ?_, .arrowParenthesis ha hw hp⟩
      rw [List.append_assoc, List.append_assoc, ← hskip, ← hwr, hs]
    · rintro ⟨text, rfl, hwrites⟩
      cases hwrites with
      | arrowParenthesis ha hw hp =>
        rw [form?, List.append_assoc, List.append_assoc, skipArrow?_eq_some_iff.mpr ⟨_, ha, rfl⟩]
        rw [Option.bind_eq_bind, Option.bind_some, skipBlanks, trimStart_append_of_allBlank hw,
          trimStart_of_head (hp.isBlank_head _)]
        exact parenthesized?_eq_some_iff.mpr ⟨_, hp, rfl⟩
  | trailingParenthesis =>
    constructor
    · intro hform
      obtain ⟨⟨ds', r⟩, hparen, hend⟩ := Option.bind_eq_some_iff.mp hform
      obtain ⟨p, hp, hs⟩ := parenthesized?_eq_some_iff.mp hparen
      obtain ⟨w, hw, hwr⟩ := exists_allBlank_trimStart r
      replace hend : (if trimStart r = [] then some (ds', trimStart r) else none) =
        some (ds, rest) := hend
      split at hend
      · next hnil =>
        cases hend
        rw [hnil, List.append_nil] at hwr
        rw [hnil, hs, hwr]
        exact ⟨p ++ w, (List.append_nil _).symm, .trailingParenthesis hp hw⟩
      · cases hend
    · rintro ⟨text, rfl, hwrites⟩
      cases hwrites with
      | trailingParenthesis hp hw =>
        have hnil := trimStart_append_of_allBlank hw []
        rw [List.append_nil, trimStart_nil] at hnil
        rw [form?, List.append_nil, parenthesized?_eq_some_iff.mpr ⟨_, hp, rfl⟩]
        simp only [Option.bind_eq_bind, Option.bind_some, skipBlanks, hnil, if_pos]
  | arrow =>
    constructor
    · intro hform
      obtain ⟨r, hr, hdigits⟩ := Option.bind_eq_some_iff.mp hform
      obtain ⟨⟨ds', r'⟩, htake, hend⟩ := Option.bind_eq_some_iff.mp hdigits
      obtain ⟨a, ha, hs⟩ := skipArrow?_eq_some_iff.mp hr
      obtain ⟨hskip, hd, _⟩ := takeDigits?_eq_some_iff.mp htake
      obtain ⟨w, hw, hwr⟩ := exists_allBlank_trimStart r
      replace hend : (if endsWord r' then some (ds', r') else none) = some (ds, rest) := hend
      split at hend
      · next hb =>
        cases hend
        refine ⟨_, ?_, .arrow ha hw hd ((hd.atBoundary_eq _).trans hb)⟩
        rw [List.append_assoc, List.append_assoc, ← hskip, ← hwr, hs]
      · cases hend
    · rintro ⟨text, rfl, hwrites⟩
      cases hwrites with
      | arrow ha hw hd hb =>
        rw [hd.atBoundary_eq] at hb
        have hdigits := takeDigits?_eq_some_iff.mpr ⟨rfl, hd, isDecimal_head_of_endsWord hb⟩
        rw [form?, List.append_assoc, List.append_assoc, skipArrow?_eq_some_iff.mpr ⟨_, ha, rfl⟩]
        rw [Option.bind_eq_bind, Option.bind_some, skipBlanks, ← List.append_assoc,
          hd.trimStart_append hw, hdigits]
        simp only [Option.bind_eq_bind, Option.bind_some, hb, if_pos]

theorem form?_eq_none_iff {n : Notation} {s : List Char} :
    n.form? s = none ↔ ∀ text ds rest, n.Writes text ds rest → s ≠ text ++ rest := by
  rw [Option.eq_none_iff_forall_ne_some]
  constructor
  · intro h text ds rest hw hs
    exact h (ds, rest) (form?_eq_some_iff.mpr ⟨text, hs, hw⟩)
  · rintro h ⟨ds, rest⟩ hform
    obtain ⟨text, hs, hw⟩ := form?_eq_some_iff.mp hform
    exact h text ds rest hw hs

theorem leftmost?_eq_some_iff {n : Notation} {s : List Char} {m : Match (List Char)} :
    leftmost? n.form? s = some m ↔ ∃ text, n.Leftmost s m.before text m.value m.after := by
  rw [Text.leftmost?_eq_some_iff]
  constructor
  · rintro ⟨rest, rfl, hf, hnone⟩
    obtain ⟨text, rfl, hw⟩ := form?_eq_some_iff.mp hf
    refine ⟨text, ⟨(List.append_assoc ..).symm, hw⟩, ?_⟩
    intro before' text' digits' after' ⟨hsplit, hw'⟩
    apply Nat.le_of_not_lt
    intro hlt
    rw [List.append_assoc] at hsplit
    obtain ⟨v, hv, hrest⟩ | ⟨v, hv, hrest⟩ := List.append_eq_append_iff.mp hsplit
    · rw [hv, List.length_append] at hlt
      omega
    · have hne : v ≠ [] := by
        rintro rfl
        rw [hv, List.append_nil] at hlt
        exact Nat.lt_irrefl _ hlt
      have hsome := form?_eq_some_iff.mpr ⟨text', hrest.symm, hw'⟩
      rw [hnone v hne ⟨before', hv.symm⟩] at hsome
      cases hsome
  · rintro ⟨text, ⟨⟨hsplit, hw⟩, hfirst⟩⟩
    refine ⟨text ++ m.after, ?_, form?_eq_some_iff.mpr ⟨text, rfl, hw⟩, ?_⟩
    · rw [hsplit, List.append_assoc]
    · rintro v hne ⟨u, hu⟩
      apply Option.eq_none_iff_forall_ne_some.mpr
      rintro ⟨digits', after'⟩ hf
      obtain ⟨text', ht, hw'⟩ := form?_eq_some_iff.mp hf
      have ho : n.Occurs s u text' digits' after' := by
        refine ⟨?_, hw'⟩
        rw [hsplit, ← hu, List.append_assoc, List.append_assoc, ht, ← List.append_assoc]
      have hle := hfirst u text' digits' after' ho
      rw [← hu, List.length_append] at hle
      have hpos := List.length_pos_iff.mpr hne
      omega

end Notation

end BenchCharts.Label

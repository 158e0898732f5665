import BenchCharts.Label.Threads
import BenchCharts.Proofs.Decimal.Numeral
import BenchCharts.Proofs.Label.Notation

/-!
Labels of runs under load: in whatever letter case and with whatever blanks `main + N extra threads`
is written, it counts the main thread and the extra ones.
-/

namespace BenchCharts.Label

open Text Decimal

/-- A lower-case word in any case of the ASCII letters. -/
def Spells (text word : List Char) : Prop :=
  text.map Char.toLower = word

inductive WritesExtra : (text digits : List Char) → Prop
  | mk {main w₁ w₂ ds w₃ extra w₄ threads} (hmain : Spells main "main".toList)
      (hw₁ : AllBlank w₁) (hw₂ : AllBlank w₂) (hd : IsNumeral ds) (hw₃ : AllBlank w₃)
      (hextra : Spells extra "extra".toList) (hw₄ : AllBlank w₄)
      (hthreads : Spells threads "threads".toList) :
      WritesExtra (main ++ w₁ ++ ['+'] ++ w₂ ++ ds ++ w₃ ++ extra ++ w₄ ++ threads) ds

theorem Spells.skipWord?_append {text word : List Char} (h : Spells text word)
    (rest : List Char) : skipWord? word (text ++ rest) = some rest := by
  induction text generalizing word with
  | nil =>
    cases h
    rfl
  | cons c text ih =>
    cases h
    exact (if_pos (.inl rfl)).trans (ih rfl)

theorem Spells.head {text word : List Char} {low up : Char} (h : Spells text (low :: word))
    (hup : low.toNat = up.toNat + 32) (rest : List Char) :
    ∀ c ∈ (text ++ rest).head?, c = low ∨ c = up := by
  obtain ⟨c, t, rfl, hc, _⟩ := List.map_eq_cons_iff.mp h
  rintro _ ⟨rfl⟩
  exact eq_or_eq_of_toLower hc hup

theorem Spells.extra_head {text : List Char} (h : Spells text "extra".toList)
    (rest : List Char) :
    ∀ c ∈ (text ++ rest).head?, isBlank c = false ∧ isDecimal c = false := by
  intro c hc
  have hword : Spells text ('e' :: "xtra".toList) := h
  have hletter : c = 'e' ∨ c = 'E' := hword.head rfl rest c hc
  rcases hletter with rfl | rfl <;> decide

theorem Spells.threads_head {text : List Char} (h : Spells text "threads".toList)
    (rest : List Char) : ∀ c ∈ (text ++ rest).head?, isBlank c = false := by
  intro c hc
  have hword : Spells text ('t' :: "hreads".toList) := h
  have hletter : c = 't' ∨ c = 'T' := hword.head rfl rest c hc
  rcases hletter with rfl | rfl <;> decide

theorem Spells.extra_endsNumeral {w text : List Char} (h : Spells text "extra".toList)
    (hw : AllBlank w) (rest : List Char) :
    ∀ c ∈ (w ++ (text ++ rest)).head?, isDecimal c = false := by
  cases w with
  | nil => exact fun c hc => (h.extra_head rest c hc).2
  | cons b w =>
    rintro _ ⟨rfl⟩
    apply Bool.eq_false_iff.mpr
    intro hd
    exact hw.notMem (isBlank_of_isDecimal hd) List.mem_cons_self

theorem Spells.skipWord?_trimStart {w text word rest : List Char} (h : Spells text word)
    (hw : AllBlank w) (hhead : ∀ c ∈ (text ++ rest).head?, isBlank c = false) :
    skipWord? word (skipBlanks (w ++ (text ++ rest))) = some rest := by
  rw [skipBlanks, trimStart_append_of_allBlank hw, trimStart_of_head hhead]
  exact h.skipWord?_append rest

theorem WritesExtra.extraThreads?_append {text ds : List Char} (h : WritesExtra text ds)
    (rest : List Char) : extraThreads? (text ++ rest) = some (ds, rest) := by
  obtain ⟨hmain, hw₁, hw₂, hd, hw₃, hextra, hw₄, hthreads⟩ := h
  rename_i main w₁ w₂ w₃ extra w₄ threads
  have htext : main ++ w₁ ++ ['+'] ++ w₂ ++ ds ++ w₃ ++ extra ++ w₄ ++ threads ++ rest =
      main ++ (w₁ ++ (['+'] ++ (w₂ ++ ds ++ (w₃ ++ (extra ++ (w₄ ++ (threads ++ rest))))))) := by
    simp only [List.append_assoc]
  have hplus (s : List Char) : skip? ['+'] (skipBlanks (w₁ ++ (['+'] ++ s))) = some s := by
    rw [skipBlanks, trimStart_append_of_allBlank hw₁]
    exact skip?_append ['+'] s
  obtain ⟨htake, hdrop⟩ := span_append hd.2 (hextra.extra_endsNumeral hw₃ (w₄ ++ (threads ++ rest)))
  have hword₁ := hextra.skipWord?_trimStart hw₃ fun c hc =>
    (hextra.extra_head (w₄ ++ (threads ++ rest)) c hc).1
  have hword₂ := hthreads.skipWord?_trimStart hw₄ (hthreads.threads_head rest)
  rw [htext, extraThreads?, hmain.skipWord?_append]
  simp only [Option.bind_eq_bind, Option.bind_some, hplus]
  rw [skipBlanks, hd.trimStart_append hw₂, htake, hdrop, if_neg hd.1, hword₁, Option.bind_some,
    hword₂]
  rfl

/-- The word `main` starts with no blank, so nothing is read in front of it. -/
theorem extraThreads?_of_blank {w s : List Char} (hw : AllBlank w) (hne : w ≠ []) :
    extraThreads? (w ++ s) = none := by
  cases w with
  | nil => exact (hne rfl).elim
  | cons c w =>
    have hblank : isBlank c = true := hw c List.mem_cons_self
    have hm : ¬ (c.toLower = 'm' ∨ ('m' = 's' ∧ c = 'ſ')) := by
      rintro (hm | ⟨hs, _⟩)
      · have hletter : c = 'm' ∨ c = 'M' := eq_or_eq_of_toLower hm rfl
        rcases hletter with rfl | rfl <;> cases hblank
      · exact absurd hs (by decide)
    have hword : skipWord? "main".toList (c :: w ++ s) = none := if_neg hm
    rw [extraThreads?, hword]
    rfl

theorem WritesExtra.plus_mem {text ds : List Char} (h : WritesExtra text ds) : '+' ∈ text := by
  obtain ⟨⟩ := h
  simp

theorem WritesExtra.threadsOfText?_eq {text ds : List Char} (h : WritesExtra text ds) {n : Nat}
    (hn : natural? ds = some n) {w : List Char} (hw : AllBlank w) (rest : List Char) :
    threadsOfText? (w ++ text ++ rest) = if n < maxCount then some (n + 1) else none := by
  -- the plus sign stays when blanks are trimmed, so the label is more than the word `main`
  have hmain : (trim (w ++ text ++ rest)).map Char.toLower ≠ "main".toList := by
    have hplus : '+' ∈ trim (w ++ text ++ rest) := by
      apply mem_trim (by decide)
      exact List.mem_append_left _ (List.mem_append_right _ h.plus_mem)
    intro he
    have hm := List.mem_map_of_mem (f := Char.toLower) hplus
    rw [he] at hm
    exact absurd hm (by decide)
  have hmatch : leftmost? extraThreads? (w ++ (text ++ rest)) = some ⟨w, ds, rest⟩ := by
    have hnone (v : List Char) (hne : v ≠ []) (hv : v <:+ w) :
        extraThreads? (v ++ (text ++ rest)) = none :=
      extraThreads?_of_blank (fun c hc => hw c (hv.subset hc)) hne
    rw [leftmost?_append hnone, leftmost?_of_form (h.extraThreads?_append rest), Option.map_some,
      List.append_nil]
  rw [threadsOfText?, if_neg hmain, List.append_assoc, hmatch, Option.bind_eq_bind,
    Option.bind_some, count?_eq hn]
  by_cases hle : n ≤ maxCount
  · rw [if_pos hle]
    rfl
  · rw [if_neg hle, if_neg (mt Nat.le_of_lt hle)]
    rfl

end BenchCharts.Label

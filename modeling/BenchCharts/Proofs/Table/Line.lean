import BenchCharts.Proofs.Largest
import BenchCharts.Proofs.Text.Blank
import BenchCharts.Proofs.Text.Width
import BenchCharts.Table
import Mathlib.Algebra.Ring.Nat

/-!
The lines of a table: each cell ends at a display column that only the widths of the columns tell.
The blanks at the end of a line are left away, which a cell stays clear of if it ends in a visible
character or one comes behind it.
-/

namespace BenchCharts.Table

open Text

theorem isGreatest_maxWidth {texts : List (List Char)} (h : texts ≠ []) :
    IsGreatest {n | ∃ s ∈ texts, width s = n} (maxWidth texts) :=
  isGreatest_foldl_max width h

theorem width_le_maxWidth {texts : List (List Char)} {s : List Char} (h : s ∈ texts) :
    width s ≤ maxWidth texts :=
  (isGreatest_maxWidth (List.ne_nil_of_mem h)).2 ⟨s, h, rfl⟩

/-- A line that is gone on with cells, each of them behind two blanks at least. -/
inductive Lined : List Char → List (List Char) → List Char → Prop
  | done (line : List Char) : Lined line [] line
  | next {line cell : List Char} {cells : List (List Char)} {full : List Char} (n : Nat) :
    Lined (line ++ blanks (n + 2) ++ cell) cells full → Lined line (cell :: cells) full

theorem Lined.length_le {line full : List Char} {cells : List (List Char)}
    (h : Lined line cells full) :
    line.length + (cells.map fun cell => 2 + cell.length).sum ≤ full.length := by
  induction h with
  | done line => exact Nat.le_refl _
  | next n _ ih =>
    rw [List.length_append, List.length_append, blanks, List.length_replicate] at ih
    rw [List.map_cons, List.sum_cons]
    omega

/-- The line has its first cell, with blanks behind it, and the cells up to cell `j`, and as far as
that it is `column` columns wide. -/
def EndsAt (first : List Char) (cells : List (List Char)) (line : List Char) (j column : Nat) :
    Prop :=
  ∃ n front, Lined (first ++ blanks n) (cells.take (j + 1)) front ∧ front <+: line ∧
    width front = column

def columnEnd (firstWidth : Nat) (widths : List Nat) (j : Nat) : Nat :=
  firstWidth + ((widths.take (j + 1)).map (2 + ·)).sum

/-- Whether a visible character ends cell `j` or stands somewhere behind it. -/
def Shown (cells : List (List Char)) (j : Nat) : Prop :=
  ∃ c, isBlank c = false ∧
    ((∃ cell, cells[j]? = some cell ∧ cell.getLast? = some c) ∨
      ∃ cell ∈ cells.drop (j + 1), c ∈ cell)

def field (cell : List Char × Nat) : List Char :=
  separator ++ padLeft cell.1 cell.2

/-- A line before the blanks at its end are left away. -/
def fullRow (firstWidth : Nat) (first : List Char) (cells : List (List Char × Nat)) : List Char :=
  padRight first firstWidth ++ cells.flatMap field

theorem layoutRow_eq (firstWidth : Nat) (first : List Char) (cells : List (List Char × Nat)) :
    layoutRow firstWidth first cells = trimEnd (fullRow firstWidth first cells) := rfl

theorem field_eq (cell : List Char × Nat) :
    field cell = blanks (cell.2 - width cell.1 + 2) ++ cell.1 := by
  have hseparator : separator = blanks 2 := rfl
  rw [field, padLeft, hseparator, ← List.append_assoc, Nat.add_comm, blanks, blanks, blanks,
    List.replicate_append_replicate]

theorem lined_fields (line : List Char) (cells : List (List Char × Nat)) :
    Lined line (cells.map (·.1)) (line ++ cells.flatMap field) := by
  induction cells generalizing line with
  | nil =>
    rw [List.flatMap_nil, List.append_nil]
    exact .done line
  | cons cell cells ih =>
    rw [List.flatMap_cons, ← List.append_assoc, field_eq, ← List.append_assoc]
    exact .next _ (ih _)

theorem width_fields (line : List Char) {cells : List (List Char × Nat)}
    (h : ∀ cell ∈ cells, width cell.1 ≤ cell.2) :
    width (line ++ cells.flatMap field) =
      width line + ((cells.map (·.2)).map (2 + ·)).sum := by
  induction cells generalizing line with
  | nil => rw [List.flatMap_nil, List.append_nil]; rfl
  | cons cell cells ih =>
    obtain ⟨hcell, hcells⟩ := List.forall_mem_cons.mp h
    rw [List.flatMap_cons, ← List.append_assoc, ih _ hcells, field_eq, ← List.append_assoc, blanks,
      width_append_blanks _ _ (Nat.succ_pos _), List.map_cons, List.map_cons, List.sum_cons]
    omega

theorem padRight_eq (s : List Char) (n : Nat) : padRight s n = s ++ blanks (n - width s) := rfl

theorem width_padRight {s : List Char} {n : Nat} (h : width s ≤ n) : width (padRight s n) = n := by
  rw [padRight_eq]
  cases hn : n - width s with
  | zero =>
    rw [blanks, List.replicate_zero, List.append_nil]
    omega
  | succ k =>
    have hwidth := width_append_blanks s [] k.succ_pos
    rw [List.append_nil, width_nil] at hwidth
    rw [blanks, hwidth]
    omega

section

variable {firstWidth : Nat} {first : List Char} {cells : List (List Char × Nat)}

theorem fullRow_take_append (firstWidth : Nat) (first : List Char) (cells : List (List Char × Nat))
    (n : Nat) : fullRow firstWidth first (cells.take n) ++ (cells.drop n).flatMap field =
      fullRow firstWidth first cells := by
  rw [fullRow, fullRow, List.append_assoc, ← List.flatMap_append, List.take_append_drop]

section

variable {j : Nat} (hfirst : width first ≤ firstWidth)
  (hcells : ∀ cell ∈ cells.take (j + 1), width cell.1 ≤ cell.2)

include hfirst hcells

theorem endsAt_of_isPrefix {line : List Char}
    (h : fullRow firstWidth first (cells.take (j + 1)) <+: line) :
    EndsAt first (cells.map (·.1)) line j (columnEnd firstWidth (cells.map (·.2)) j) := by
  refine ⟨firstWidth - width first, _, ?_, h, ?_⟩
  · rw [← List.map_take]
    exact lined_fields _ _
  · rw [fullRow, width_fields _ hcells, width_padRight hfirst, columnEnd, List.map_take]

theorem endsAt_fullRow :
    EndsAt first (cells.map (·.1)) (fullRow firstWidth first cells) j
      (columnEnd firstWidth (cells.map (·.2)) j) :=
  endsAt_of_isPrefix hfirst hcells ⟨_, fullRow_take_append firstWidth first cells (j + 1)⟩

theorem endsAt_layoutRow (h : Shown (cells.map (·.1)) j) :
    EndsAt first (cells.map (·.1)) (layoutRow firstWidth first cells) j
      (columnEnd firstWidth (cells.map (·.2)) j) := by
  apply endsAt_of_isPrefix hfirst hcells
  rw [layoutRow_eq, ← fullRow_take_append firstWidth first cells (j + 1)]
  obtain ⟨c, hc, ⟨cell, hj, hlast⟩ | ⟨cell, hm, hcell⟩⟩ := h
  · refine isPrefix_trimEnd hc ?_ (List.prefix_append _ _)
    rw [List.getElem?_map, Option.map_eq_some_iff] at hj
    obtain ⟨sized, hj, rfl⟩ := hj
    rw [fullRow, List.take_add_one, hj, List.flatMap_append, Option.toList_some,
      List.flatMap_singleton, field_eq, ← List.append_assoc, ← List.append_assoc,
      List.getLast?_append, hlast]
    rfl
  · have hrest : c ∈ (cells.drop (j + 1)).flatMap field := by
      rw [← List.map_drop] at hm
      obtain ⟨sized, hsized, rfl⟩ := List.mem_map.mp hm
      refine List.mem_flatMap.mpr ⟨sized, hsized, ?_⟩
      rw [field_eq]
      exact List.mem_append_right _ hcell
    obtain ⟨front, behind, he⟩ := List.append_of_mem hrest
    rw [he]
    generalize fullRow firstWidth first (cells.take (j + 1)) = line
    have hshown : line ++ (front ++ [c]) <+: line ++ (front ++ c :: behind) :=
      ⟨behind, by rw [List.append_assoc, List.append_assoc, List.singleton_append]⟩
    have hlast : (line ++ (front ++ [c])).getLast? = some c := by
      rw [← List.append_assoc, List.getLast?_concat]
    exact (List.prefix_append _ _).trans (isPrefix_trimEnd hc hlast hshown)

end

end

theorem lineFeed_notMem_layoutRow (firstWidth : Nat) {first : List Char}
    {cells : List (List Char × Nat)} (hfirst : '\n' ∉ first)
    (hcells : ∀ cell ∈ cells, '\n' ∉ cell.1) : '\n' ∉ layoutRow firstWidth first cells := by
  have hblanks (n : Nat) : '\n' ∉ blanks n := fun hm => by
    cases List.eq_of_mem_replicate hm
  rw [layoutRow_eq]
  intro hm
  have htrim := trimEnd_prefix (fullRow firstWidth first cells)
  rcases List.mem_append.mp (htrim.mem hm) with hm | hm
  · rcases List.mem_append.mp hm with hm | hm
    · exact hfirst hm
    · exact hblanks _ hm
  · obtain ⟨cell, hcell, hm⟩ := List.mem_flatMap.mp hm
    rw [field_eq] at hm
    rcases List.mem_append.mp hm with hm | hm
    · exact hblanks _ hm
    · exact hcells cell hcell hm

end BenchCharts.Table

import BenchCharts.Decimal.Numeral
import BenchCharts.Proofs.Decimal.Fixed
import BenchCharts.Proofs.Table.Line

/-!
Tables stay aligned: in the header and in every row the cell of a column ends at the same display
column.
-/

namespace BenchCharts.Table

open Text

theorem isGraphic_cellText (x : Float) : ∀ c ∈ cellText x, IsGraphic c := by
  unfold cellText
  split
  · exact List.forall_mem_singleton.mpr ⟨by decide, by decide⟩
  · exact Decimal.isGraphic_fixedText 2 x

theorem cellText_ne_nil (x : Float) : cellText x ≠ [] := by
  unfold cellText
  split
  · exact List.cons_ne_nil _ _
  · have hlength := Decimal.one_lt_length_fixedText (by decide : 2 ≠ 0) x
    exact List.ne_nil_of_length_pos (Nat.lt_of_succ_lt hlength)

theorem cellText_eq_missing_iff {x : Float} : cellText x = missing ↔ x.isNaN = true := by
  unfold cellText
  split
  · next h => exact iff_of_true rfl h
  · next h =>
    refine iff_of_false (fun he => ?_) h
    have hlength : 1 < (Decimal.fixedText 2 x).length :=
      Decimal.one_lt_length_fixedText (by decide) x
    rw [he] at hlength
    exact absurd hlength (by decide)

namespace Column

variable {column : Column} {row : Nat}

theorem cell_cases (column : Column) (row : Nat) :
    (column.values[row]? = none ∧ column.cell row = missing) ∨
      ∃ x, column.values[row]? = some x ∧ column.cell row = cellText x := by
  unfold cell
  cases column.values[row]? with
  | none => exact .inl ⟨rfl, rfl⟩
  | some x => exact .inr ⟨x, rfl, rfl⟩

theorem isGraphic_cell (column : Column) (row : Nat) : ∀ c ∈ column.cell row, IsGraphic c := by
  obtain ⟨_, hcell⟩ | ⟨x, _, hcell⟩ := column.cell_cases row
  · rw [hcell]
    exact List.forall_mem_singleton.mpr ⟨by decide, by decide⟩
  · rw [hcell]
    exact isGraphic_cellText x

theorem exists_last_cell (column : Column) (row : Nat) :
    ∃ c, isBlank c = false ∧ (column.cell row).getLast? = some c := by
  have hne : column.cell row ≠ [] := by
    obtain ⟨_, hcell⟩ | ⟨x, _, hcell⟩ := column.cell_cases row
    · exact hcell ▸ List.cons_ne_nil _ _
    · exact hcell ▸ cellText_ne_nil x
  refine ⟨(column.cell row).getLast hne, ?_, List.getLast?_eq_some_getLast hne⟩
  exact (column.isGraphic_cell row _ (List.getLast_mem hne)).notBlank

theorem cell_eq_missing_iff :
    column.cell row = missing ↔ ∀ x, column.values[row]? = some x → x.isNaN = true := by
  obtain ⟨hvalue, hcell⟩ | ⟨x, hvalue, hcell⟩ := column.cell_cases row
  · rw [hvalue]
    exact iff_of_true hcell nofun
  · rw [hvalue, hcell, cellText_eq_missing_iff]
    exact ⟨fun h y hy => Option.some.inj hy ▸ h, fun h => h x rfl⟩

theorem cell_of_number {x : Float} (hvalue : column.values[row]? = some x)
    (hx : x.isNaN = false) : column.cell row = Decimal.fixedText 2 x := by
  rw [cell, hvalue, Option.map_some, Option.getD_some, cellText, if_neg (Bool.eq_false_iff.mp hx)]

theorem width_header_le (column : Column) : Text.width column.header.toList ≤ column.width :=
  width_le_maxWidth List.mem_cons_self

theorem width_cell_le (h : 0 < column.width) (row : Nat) :
    Text.width (column.cell row) ≤ column.width := by
  obtain ⟨_, hcell⟩ | ⟨x, hvalue, hcell⟩ := column.cell_cases row
  · have hmissing : Text.width missing = 1 := by decide
    rw [hcell, hmissing]
    exact h
  · rw [hcell]
    apply width_le_maxWidth
    exact List.mem_cons_of_mem _ (List.mem_map_of_mem (List.mem_of_getElem? hvalue))

end Column

theorem shown_cells {columns : List Column} {j : Nat} (h : j < columns.length) (row : Nat) :
    Shown (columns.map (·.cell row)) j := by
  obtain ⟨c, hc, hlast⟩ := columns[j].exists_last_cell row
  refine ⟨c, hc, .inl ⟨_, ?_, hlast⟩⟩
  rw [List.getElem?_map, List.getElem?_eq_getElem h, Option.map_some]

/-- The lines of a table, where `first` is the width of the first cells. -/
structure Aligned (title xHeader : String) (ticks : List String) (columns : List Column)
    (first : Nat) (lines : List (List Char)) : Prop where
  length_lines : lines.length = 3 + ticks.length
  title_line : lines[0]? = some title.toList
  rule_line : lines[1]? = some (List.replicate (width title.toList) '-')
  /-- The cells of the header are in place but for the blanks at the end of its line. -/
  header_line : ∃ full line, lines[2]? = some line ∧ line = trimEnd full ∧
    ∀ j < columns.length,
      EndsAt xHeader.toList (columns.map (·.header.toList)) full j
        (columnEnd first (columns.map (·.width)) j) ∧
      (Shown (columns.map (·.header.toList)) j →
        EndsAt xHeader.toList (columns.map (·.header.toList)) line j
          (columnEnd first (columns.map (·.width)) j))
  row_line : ∀ r tick, ticks[r]? = some tick → ∃ line, lines[3 + r]? = some line ∧
    ∀ j < columns.length, (∀ column ∈ columns.take (j + 1), 0 < column.width) →
      EndsAt tick.toList (columns.map (·.cell r)) line j
        (columnEnd first (columns.map (·.width)) j)
  trimmed : ∀ line ∈ lines.drop 2, ∀ c ∈ line.getLast?, isBlank c = false

theorem tableLines_eq (title xHeader : String) (ticks : List String) (columns : List Column) :
    let first := maxWidth (xHeader.toList :: ticks.map String.toList)
    tableLines title xHeader ticks columns =
      title.toList :: List.replicate (width title.toList) '-' ::
        layoutRow first xHeader.toList (columns.map fun c => (c.header.toList, c.width)) ::
        ticks.zipIdx.map fun (tick, r) =>
          layoutRow first tick.toList (columns.map fun c => (c.cell r, c.width)) := by
  simp only [tableLines, List.map_map, Function.comp_def, List.cons_append, List.nil_append]

section

variable {columns : List Column} {f : Column → List Char} {first : List Char}
  {firstWidth j : Nat} (hfirst : width first ≤ firstWidth)
  (hcells : ∀ column ∈ columns.take (j + 1), width (f column) ≤ column.width)

include hfirst hcells

theorem endsAt_columns_fullRow :
    EndsAt first (columns.map f)
      (fullRow firstWidth first (columns.map fun c => (f c, c.width))) j
      (columnEnd firstWidth (columns.map (·.width)) j) := by
  have hfits : ∀ cell ∈ (columns.map fun c => (f c, c.width)).take (j + 1),
      width cell.1 ≤ cell.2 := by
    rw [← List.map_take]
    exact List.forall_mem_map.mpr hcells
  have h := endsAt_fullRow hfirst hfits
  rwa [List.map_map, List.map_map] at h

theorem endsAt_columns_layoutRow (hshown : Shown (columns.map f) j) :
    EndsAt first (columns.map f)
      (layoutRow firstWidth first (columns.map fun c => (f c, c.width))) j
      (columnEnd firstWidth (columns.map (·.width)) j) := by
  have hfits : ∀ cell ∈ (columns.map fun c => (f c, c.width)).take (j + 1),
      width cell.1 ≤ cell.2 := by
    rw [← List.map_take]
    exact List.forall_mem_map.mpr hcells
  have h := endsAt_layoutRow hfirst hfits
  rw [List.map_map, List.map_map] at h
  exact h hshown

end

theorem aligned_tableLines (title xHeader : String) (ticks : List String)
    (columns : List Column) :
    Aligned title xHeader ticks columns (maxWidth (xHeader.toList :: ticks.map String.toList))
      (tableLines title xHeader ticks columns) := by
  rw [tableLines_eq]
  have hheader : width xHeader.toList ≤ maxWidth (xHeader.toList :: ticks.map String.toList) :=
    width_le_maxWidth List.mem_cons_self
  have htick {tick : String} (hm : tick ∈ ticks) :
      width tick.toList ≤ maxWidth (xHeader.toList :: ticks.map String.toList) :=
    width_le_maxWidth (List.mem_cons_of_mem _ (List.mem_map_of_mem hm))
  generalize maxWidth (xHeader.toList :: ticks.map String.toList) = first at *
  refine ⟨?_, rfl, rfl, ⟨_, _, rfl, layoutRow_eq .., fun j _ => ?_⟩, fun r tick ht => ?_, ?_⟩
  · simp only [List.length_cons, List.length_map, List.length_zipIdx]
    omega
  · have hcells : ∀ column ∈ columns.take (j + 1), width column.header.toList ≤ column.width :=
      fun column _ => column.width_header_le
    exact ⟨endsAt_columns_fullRow hheader hcells, endsAt_columns_layoutRow hheader hcells⟩
  · refine ⟨layoutRow first tick.toList (columns.map fun c => (c.cell r, c.width)), ?_,
      fun j hj hwidths => ?_⟩
    · rw [Nat.add_comm, List.getElem?_cons_succ, List.getElem?_cons_succ, List.getElem?_cons_succ,
        List.getElem?_map, List.getElem?_zipIdx, ht, Option.map_some, Option.map_some, Nat.zero_add]
    · have hcells : ∀ column ∈ columns.take (j + 1), width (column.cell r) ≤ column.width :=
        fun column hm => column.width_cell_le (hwidths column hm) r
      exact endsAt_columns_layoutRow (htick (List.mem_of_getElem? ht)) hcells (shown_cells hj r)
  · refine List.forall_mem_cons.mpr ⟨isBlank_last_trimEnd _, fun line hm => ?_⟩
    obtain ⟨tick, _, rfl⟩ := List.mem_map.mp hm
    exact isBlank_last_trimEnd _

theorem lineFeed_notMem_tableLines {title xHeader : String} {ticks : List String}
    {columns : List Column}
    (h : ∀ s ∈ title :: xHeader :: ticks ++ columns.map (·.header), '\n' ∉ s.toList) :
    ∀ line ∈ tableLines title xHeader ticks columns, '\n' ∉ line := by
  obtain ⟨⟨htitle, hheader, hticks⟩, hcolumns⟩ : ('\n' ∉ title.toList ∧ '\n' ∉ xHeader.toList ∧
      ∀ tick ∈ ticks, '\n' ∉ tick.toList) ∧ ∀ column ∈ columns, '\n' ∉ column.header.toList := by
    simpa only [List.forall_mem_append, List.forall_mem_cons, List.forall_mem_map] using h
  rw [tableLines_eq]
  refine List.forall_mem_cons.mpr ⟨htitle, List.forall_mem_cons.mpr ⟨fun hm => ?_,
    List.forall_mem_cons.mpr ⟨?_, List.forall_mem_map.mpr fun numbered hm => ?_⟩⟩⟩
  · cases List.eq_of_mem_replicate hm
  · exact lineFeed_notMem_layoutRow _ hheader (List.forall_mem_map.mpr hcolumns)
  · apply lineFeed_notMem_layoutRow
    · exact hticks _ (List.fst_mem_of_mem_zipIdx hm)
    · refine List.forall_mem_map.mpr fun column _ hcell => ?_
      have hgraphic := column.isGraphic_cell numbered.2 _ hcell
      exact absurd hgraphic.1 (by decide)

theorem isGreatest_firstWidth (xHeader : String) (ticks : List String) :
    IsGreatest {n | ∃ s ∈ xHeader :: ticks, width s.toList = n}
      (maxWidth (xHeader.toList :: ticks.map String.toList)) := by
  rw [← List.map_cons, maxWidth, List.foldl_map]
  exact isGreatest_foldl_max (fun s : String => width s.toList) (List.cons_ne_nil _ _)

/-- The text of a table consists of three lines and one for each tick. Down a column all cells end
at the same place, in the header as far as its last blanks are left away and in each row up to the
first column without any width. -/
theorem render_aligned {title xHeader : String} {ticks : List String} {columns : List Column}
    (h : ∀ s ∈ title :: xHeader :: ticks ++ columns.map (·.header), '\n' ∉ s.toList) :
    ∃ (lines : List (List Char)) (first : Nat),
      (render title xHeader ticks columns).toList = lines.flatMap (· ++ ['\n']) ∧
      (∀ line ∈ lines, '\n' ∉ line) ∧
      Aligned title xHeader ticks columns first lines ∧
      IsGreatest {n | ∃ s ∈ xHeader :: ticks, width s.toList = n} first ∧
      ∀ column ∈ columns,
        IsGreatest {n | ∃ s ∈ column.header.toList :: column.values.map cellText, width s = n}
          column.width ∧
        ∀ r, (column.cell r = ['-'] ↔ ∀ x, column.values[r]? = some x → x.isNaN = true) ∧
          ∀ x, column.values[r]? = some x → x.isNaN = false →
            column.cell r = Decimal.fixedText 2 x := by
  refine ⟨_, _, String.toList_ofList, lineFeed_notMem_tableLines h, aligned_tableLines ..,
    isGreatest_firstWidth xHeader ticks, fun column _ => ⟨?_, fun r => ⟨?_, fun x => ?_⟩⟩⟩
  · exact isGreatest_maxWidth (List.cons_ne_nil _ _)
  · exact column.cell_eq_missing_iff
  · exact column.cell_of_number

/-- Ragged columns of wide glyphs: each cell of the second row ends where the header of its column
does. -/
theorem render_aligned_wide :
    let columns : List Column := [⟨"延迟", [1.25]⟩, ⟨"v ", [Decimal.nan, 10.0, 7.0]⟩]
    (∀ s ∈ "t" :: "x" :: ["a", "号"] ++ columns.map (·.header), '\n' ∉ s.toList) ∧
      ∃ (lines : List (List Char)) (first : Nat),
        (render "t" "x" ["a", "号"] columns).toList = lines.flatMap (· ++ ['\n']) ∧
        Aligned "t" "x" ["a", "号"] columns first lines ∧
        ∃ line, lines[4]? = some line ∧
          EndsAt ['号'] [['-'], "10.00".toList] line 1
            (columnEnd first (columns.map (·.width)) 1) := by
  intro columns
  have hbreaks : ∀ s ∈ "t" :: "x" :: ["a", "号"] ++ columns.map (·.header), '\n' ∉ s.toList := by
    decide
  obtain ⟨lines, first, htext, _, haligned, _⟩ := render_aligned hbreaks
  obtain ⟨line, hline, hends⟩ := haligned.row_line 1 "号" rfl
  have hcells : columns.map (·.cell 1) = [['-'], "10.00".toList] := by decide +kernel
  have hwidths : ∀ column ∈ columns.take 2, 0 < column.width := by decide +kernel
  rw [← hcells]
  exact ⟨hbreaks, lines, first, htext, haligned, line, hline, hends 1 (by decide) hwidths⟩

/-- A header that ends in a blank loses it at the end of its line. The sign of a missing value is
wider than a column with an empty header and no values, so what follows is one place too far on. -/
theorem columns_end_apart :
    tableLines "t" "x" ["r"] [⟨"a ", []⟩] = [['t'], ['-'], "x  a".toList, "r   -".toList] ∧
      (¬ ∃ column, EndsAt ['x'] [['a', ' ']] "x  a".toList 0 column) ∧
      tableLines "t" "x" ["r"] [⟨"", []⟩, ⟨"a", []⟩] =
        [['t'], ['-'], "x    a".toList, "r  -  -".toList] ∧
      ¬ ∃ column, EndsAt ['x'] [[], ['a']] "x    a".toList 1 column ∧
        EndsAt ['r'] [['-'], ['-']] "r  -  -".toList 1 column := by
  refine ⟨by decide +kernel, ?_, by decide +kernel, ?_⟩
  · rintro ⟨column, n, front, hlined, hprefix, _⟩
    have hlength : n + 1 + 4 ≤ front.length := by simpa [blanks] using hlined.length_le
    have hle : front.length ≤ 4 := hprefix.length_le
    omega
  · rintro ⟨column, ⟨n, front, hlined, hprefix, hwidth⟩, n', front', hlined', hprefix', hwidth'⟩
    have hheader : front = "x    a".toList := by
      have hlength : n + 1 + 5 ≤ front.length := by simpa [blanks] using hlined.length_le
      have hle : 6 ≤ front.length := by omega
      exact hprefix.eq_of_length_le hle
    have hrow : front' = "r  -  -".toList := by
      have hlength : n' + 1 + 6 ≤ front'.length := by simpa [blanks] using hlined'.length_le
      have hle : 7 ≤ front'.length := by omega
      exact hprefix'.eq_of_length_le hle
    rw [hheader] at hwidth
    rw [hrow, ← hwidth] at hwidth'
    exact absurd hwidth' (by decide +kernel)

end BenchCharts.Table

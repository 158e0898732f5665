import BenchCharts.Config.Reader
import BenchCharts.Proofs.Dataset.Sound
import BenchCharts.Proofs.Report.Ipc

/-!
The colors of groups in the charts of the report on messages between processes. A group without a
color of its own takes one from the palette: in the chart of a source the one for its position among
the groups that the source has, in the chart of all sources the one for its place in the report.
-/

namespace BenchCharts

theorem Theme.groupColor_eq_iff {theme : Theme} {group : String} {i j : Nat} :
    theme.groupColor group i = theme.groupColor group j ↔
      (theme.groupColors.get? (Text.toLower group)).isSome ∨ theme.cycle i = theme.cycle j := by
  unfold groupColor
  cases theme.groupColors.get? (Text.toLower group) with
  | none => simp
  | some color => simp

theorem position_of_zipIdx_filter {l : List α} {p : α → Bool} {x : α} {k index position : Nat}
    (h : ((l.zipIdx k).filter (p ·.1))[position]? = some (x, k + index)) :
    position = (l.take index).countP p := by
  induction l generalizing k index position with
  | nil => simp at h
  | cons a l ih =>
    -- an element of the rest stands behind the first place
    have hrest {position : Nat}
        (h : ((l.zipIdx (k + 1)).filter (p ·.1))[position]? = some (x, k + index)) :
        ∃ i, index = i + 1 ∧ position = (l.take i).countP p := by
      have hm := (List.mem_filter.mp (List.mem_of_getElem? h)).1
      have hle := List.le_snd_of_mem_zipIdx hm
      obtain ⟨i, rfl⟩ : ∃ i, index = i + 1 := Nat.exists_eq_add_one.mpr (by omega)
      refine ⟨i, rfl, ih (k := k + 1) ?_⟩
      rw [h]
      congr 2
      omega
    rw [List.zipIdx_cons, List.filter_cons] at h
    split at h
    · next hp =>
      cases position with
      | zero =>
        rw [List.getElem?_cons_zero, Option.some.injEq, Prod.mk.injEq] at h
        obtain rfl : index = 0 := by omega
        rfl
      | succ position =>
        obtain ⟨i, rfl, rfl⟩ := hrest h
        rw [List.take_succ_cons, List.countP_cons_of_pos hp]
    · next hp =>
      obtain ⟨i, rfl, rfl⟩ := hrest h
      rw [List.take_succ_cons, List.countP_cons_of_neg hp]

namespace Ipc

/-- The groups that a dataset has, with their places in the report. -/
def placedGroups (dataset : Dataset) : List (Nat × String) :=
  (presentGroups dataset).map fun (index, group, _) => (index, group)

theorem placedGroups_eq (dataset : Dataset) :
    placedGroups dataset =
      (groups.zipIdx.filter fun e => (dataset.perSize? e.1).isSome).map fun e => (e.2, e.1) := by
  rw [placedGroups, presentGroups, List.map_filterMap, ← List.filterMap_eq_map,
    List.filterMap_filter]
  apply List.filterMap_congr
  intro e _
  dsimp only
  cases dataset.perSize? e.1 <;> rfl

theorem position_of_placedGroups {dataset : Dataset} {position index : Nat} {group : String}
    (h : (placedGroups dataset)[position]? = some (index, group)) :
    position = (groups.take index).countP fun other => (dataset.perSize? other).isSome := by
  rw [placedGroups_eq, List.getElem?_map, Option.map_eq_some_iff] at h
  obtain ⟨⟨group', index'⟩, h, he⟩ := h
  cases he
  rw [← Nat.zero_add index'] at h
  exact position_of_zipIdx_filter h

theorem mem_placedGroups_iff {dataset : Dataset} {index : Nat} {group : String} :
    (index, group) ∈ placedGroups dataset ↔
      groups[index]? = some group ∧ (dataset.perSize? group).isSome := by
  rw [placedGroups_eq, List.mem_map]
  constructor
  · rintro ⟨e, he, hp⟩
    cases hp
    obtain ⟨hm, hs⟩ := List.mem_filter.mp he
    exact ⟨List.mem_zipIdx_iff_getElem?.mp hm, hs⟩
  · rintro ⟨hi, hs⟩
    exact ⟨(group, index), List.mem_filter.mpr ⟨List.mem_zipIdx_iff_getElem?.mpr hi, hs⟩, rfl⟩

theorem looks_sourceChart {dataset : Dataset} (h : ∃ document, dataset = .extract document groupSet)
    (title : String) (config : Config) :
    (sourceChart title dataset config).lines.map Line.look =
      (placedGroups dataset).zipIdx.map fun ((_, group), position) =>
        ⟨group, config.theme.groupColor group position, .circle, .solid⟩ := by
  have hlength : (Alignment.union ((presentGroups dataset).map (·.2.2))).values.length =
      ((presentGroups dataset).map (·.2.1)).length := by
    rw [Alignment.length_values_union, List.length_map, List.length_map]
  rw [lines_sourceChart h, looks_groupLines hlength, placedGroups, List.zipIdx_map, List.zipIdx_map,
    List.map_map, List.map_map]
  rfl

theorem looks_combinedChart {results : List Results}
    (h : ∀ r ∈ results, ∃ document, r.dataset = .extract document groupSet) (config : Config) :
    (combinedChart results config).lines.map Line.look = results.flatMap fun r =>
      (placedGroups r.dataset).map fun (index, group) =>
        ⟨s!"{r.source} {group}", config.theme.groupColor group index, .ofIndex r.index,
          .ofIndex index⟩ := by
  have hlength : (Alignment.union ((keyedSeries results).map (·.2))).values.length =
      ((keyedSeries results).map (·.1)).length := by
    rw [Alignment.length_values_union, List.length_map, List.length_map]
  rw [lines_combinedChart h, looks_overlayLines hlength, List.map_map, keyedSeries,
    List.map_flatMap]
  apply List.flatMap_congr
  intro r _
  rw [placedGroups, List.map_map, List.map_map]
  rfl

/-- The lines of a source stand in the same order in both charts. A group has one color in them if
the theme has one for it, or if the palette has the same one for its position and its place. These
two are the same if the source has all groups in front of it. -/
theorem colors_in_both_charts (results : List Results)
    (h : ∀ r ∈ results, ∃ document, r.dataset = .extract document groupSet) (config : Config) :
    ((combinedChart results config).lines.map Line.look = results.flatMap fun r =>
      (placedGroups r.dataset).map fun (index, group) =>
        ⟨s!"{r.source} {group}", config.theme.groupColor group index, .ofIndex r.index,
          .ofIndex index⟩) ∧
      ∀ r ∈ results,
        (∀ title, (sourceChart title r.dataset config).lines.map Line.look =
          (placedGroups r.dataset).zipIdx.map fun ((_, group), position) =>
            ⟨group, config.theme.groupColor group position, .circle, .solid⟩) ∧
        (∀ index group, (index, group) ∈ placedGroups r.dataset ↔
          groups[index]? = some group ∧ (r.dataset.get? group).isSome) ∧
        ∀ position index group, (placedGroups r.dataset)[position]? = some (index, group) →
          position = (groups.take index).countP (fun other => (r.dataset.get? other).isSome) ∧
            (config.theme.groupColor group position = config.theme.groupColor group index ↔
              (config.theme.groupColors.get? (Text.toLower group)).isSome ∨
                config.theme.cycle position = config.theme.cycle index) := by
  refine ⟨looks_combinedChart h config, fun r hr => ?_⟩
  have hsize (group : String) :
      (r.dataset.perSize? group).isSome = (r.dataset.get? group).isSome := by
    obtain ⟨document, hd⟩ := h r hr
    rw [hd]
    exact (Dataset.sound_extract document groupSet).isSome_perSize? (by decide) group
  refine ⟨fun title => looks_sourceChart (h r hr) title config, fun index group => ?_,
    fun position index group hp => ⟨?_, Theme.groupColor_eq_iff⟩⟩
  · rw [mem_placedGroups_iff, hsize]
  · rw [position_of_placedGroups hp]
    simp only [hsize]

/-- The theme has a color for the first of two groups only, and other groups are missing before the
second one. -/
theorem colors_in_both_charts_gap :
    let row : Json := .object [("name", .string "a (1)"), ("avg", .int 5)]
    let document : Document := .mapping [("worker", .array [row]), ("http", .array [row])]
    let bun : Results := ⟨"Bun", 2, ⟨[]⟩, .extract document groupSet⟩
    let orange := Color.ofHex 0xff7f0e
    let theme : Theme := { Theme.standard with groupColors := [("worker", orange)] }
    let config : Config := { Config.standard with theme }
    (∀ r ∈ [bun], ∃ document, r.dataset = .extract document groupSet) ∧
      (placedGroups bun.dataset)[1]? = some (3, "http") ∧
      (sourceChart "Bun" bun.dataset config).lines.map Line.look =
        [⟨"worker", orange, .circle, .solid⟩, ⟨"http", orange, .circle, .solid⟩] ∧
      (combinedChart [bun] config).lines.map Line.look =
        [⟨"Bun worker", orange, .triangle, .dashed⟩,
          ⟨"Bun http", .ofHex 0xd62728, .triangle, .dashDot⟩] ∧
      theme.groupColor "worker" 0 = theme.groupColor "worker" 1 ∧
      theme.groupColor "http" 1 ≠ theme.groupColor "http" 3 := by
  intro row document bun orange theme config
  have h : ∀ r ∈ [bun], ∃ document, r.dataset = .extract document groupSet :=
    List.forall_mem_singleton.mpr ⟨document, rfl⟩
  have hworker : (placedGroups bun.dataset)[0]? = some (1, "worker") := by decide +kernel
  have hhttp : (placedGroups bun.dataset)[1]? = some (3, "http") := by decide +kernel
  obtain ⟨hjoint, hown⟩ := colors_in_both_charts [bun] h config
  obtain ⟨hlooks, -, hcolors⟩ := hown bun (List.mem_singleton_self bun)
  refine ⟨h, hhttp, (hlooks "Bun").trans (by decide +kernel), hjoint.trans (by decide +kernel),
    (hcolors _ _ _ hworker).2.mpr (.inl (by decide +kernel)), fun he => ?_⟩
  rcases (hcolors _ _ _ hhttp).2.mp he with hfixed | hcycle
  · exact absurd hfixed (by decide +kernel)
  · exact absurd hcycle (by decide +kernel)

/-- The configuration takes away the colors of all groups. The one group of the source has another
color in the chart of the source than in the chart of all sources. -/
theorem group_color_differs :
    let row : Json := .object [("name", .string "w (1)"), ("avg", .int 5)]
    let dataset := Dataset.extract (.mapping [("worker", .array [row])]) groupSet
    let colors (chart : Chart) := chart.lines.map fun line => (line.label, line.color)
    ∃ config, (Config.ofText "[theme]\ngroup-colors = \x7b\x7d\n".toList).toOption = some config ∧
      colors (sourceChart "Node.js" dataset config) = [("worker", .ofHex 0x1f77b4)] ∧
      colors (combinedChart [⟨"Node.js", 0, ⟨[]⟩, dataset⟩] config) =
        [("Node.js worker", .ofHex 0xff7f0e)] := by
  intro row dataset colors
  have hread : (Config.ofText "[theme]\ngroup-colors = \x7b\x7d\n".toList).toOption.map
      (fun config => (colors (sourceChart "Node.js" dataset config),
        colors (combinedChart [⟨"Node.js", 0, ⟨[]⟩, dataset⟩] config))) =
      some ([("worker", .ofHex 0x1f77b4)], [("Node.js worker", .ofHex 0xff7f0e)]) := by
    decide +kernel
  obtain ⟨config, hconfig, hcolors⟩ := Option.map_eq_some_iff.mp hread
  obtain ⟨hown, hjoint⟩ := Prod.mk.inj hcolors
  exact ⟨config, hconfig, hown, hjoint⟩

end Ipc

end BenchCharts

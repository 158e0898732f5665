import BenchCharts.Plan.Ipc
import BenchCharts.Proofs.Dataset.Sound
import BenchCharts.Proofs.Plan.Loading
import BenchCharts.Proofs.Report.Charts
import BenchCharts.Proofs.Report.Ipc

/-!
The plan of the report on messages between processes: it draws what there is, and warns of the rest.
What is loaded has something to draw, so the charts of a folder are never warned about.
-/

namespace BenchCharts.Ipc

variable (setting : Setting) (tree : FileTree) (request : ReportRequest)

/-- What a plan says if there is nothing in a chart that it draws elsewhere. -/
def excuse (chart : Chart) (path : Path) (noTicks : String) : String :=
  if chart.ticks.isEmpty then noTicks else setting.blankWarning chart path

/-- One file: its chart, or a warning. -/
def FileTolerant (plan : Plan) : Prop :=
  let title := Source.titleOf setting.config.sources request.input
  let path := request.input.chartPath (request.out.getD standardOut)
  ∃ reading, tree.Reads request.input reading ∧
    match reading with
    | .error issue => plan.Warns (issue.skipWarning setting.home title)
    | .ok document =>
      let chart := sourceChart title (.extract document groupSet) setting.config
      plan.Settles chart path (excuse setting chart path s!"{title}: no counts found")

/-- The files of all sources: a chart for each one and a chart for all. -/
structure FolderTolerant (plan : Plan) : Prop where
  sources : setting.Accounts tree request.input "ipc" groupSet plan
  nothing : (setting.loadSources tree request.input "ipc" groupSet).2 = [] →
    plan.Warns s!"No IPC results found under {request.input.shown setting.home}"
  single : ∀ r ∈ (setting.loadSources tree request.input "ipc" groupSet).2,
    let chart := sourceChart r.source r.dataset setting.config
    let path := sourcePath (request.out.getD standardOut) r
    plan.Settles chart path (excuse setting chart path s!"{r.source}: no counts found")
  combined : 1 < (setting.loadSources tree request.input "ipc" groupSet).2.length →
    let chart := combinedChart (setting.loadSources tree request.input "ipc" groupSet).2
      setting.config
    let path := combinedPath (request.out.getD standardOut)
    plan.Settles chart path (excuse setting chart path "Combined chart has no data")

theorem filePlan_eq (out : Path) :
    let title := Source.titleOf setting.config.sources request.input
    filePlan setting tree request out =
      (Results.ofFile tree groupSet title 0 request.input).1.map .say ++
        match (tree.document request.input).2 with
        | .error issue => [.say (.warning (issue.skipWarning setting.home title))]
        | .ok document => sourcePlan setting request title (.extract document groupSet)
          (request.input.chartPath out) := by
  unfold filePlan Results.ofFile
  rcases tree.document request.input with ⟨said, issue | document⟩ <;> rfl

theorem folderPlan_eq (out : Path) :
    let loaded := (setting.loadSources tree request.input "ipc" groupSet).2
    folderPlan setting tree request false out =
      (setting.loadSources tree request.input "ipc" groupSet).1.map .say ++
        if loaded.isEmpty then
          [.say (.warning s!"No IPC results found under {request.input.shown setting.home}"),
            .say inputHint]
        else loaded.flatMap (fun r =>
            sourcePlan setting request r.source r.dataset (sourcePath out r)) ++
          if 1 < loaded.length then combinedPlan setting request loaded (combinedPath out)
          else [] := by
  unfold folderPlan
  rcases setting.loadSources tree request.input "ipc" groupSet with ⟨said, loaded⟩
  dsimp only
  rw [if_neg (fun h : false = true ∧ _ => nomatch h.1), List.append_nil]

theorem folderPlan_montage (out : Path)
    (h : (setting.loadSources tree request.input "ipc" groupSet).2 ≠ []) :
    folderPlan setting tree request true out = folderPlan setting tree request false out ++
      let drawn :=
        drawnPaths setting (setting.loadSources tree request.input "ipc" groupSet).2 out
      if drawn.isEmpty then [] else [.stitch drawn (montagePath out)] := by
  unfold folderPlan
  rcases hl : setting.loadSources tree request.input "ipc" groupSet with ⟨said, loaded⟩
  rw [hl] at h
  dsimp only at h ⊢
  rw [if_neg (List.isEmpty_iff.not.mpr h), if_neg (List.isEmpty_iff.not.mpr h)]
  cases (drawnPaths setting loaded out).isEmpty <;> simp

variable {setting tree request}

/-- The common shape of `sourcePlan` and `combinedPlan`. -/
theorem settles_of_subset {plan : Plan} {chart : Chart} (hc : chart.WellFormed) {path : Path}
    {noTicks : String}
    (h : (if chart.ticks.isEmpty then [.say (.warning noTicks)]
      else setting.chartSteps request xLabel chart path) ⊆ plan) :
    plan.Settles chart path (excuse setting chart path noTicks) := by
  by_cases ht : chart.ticks.isEmpty
  · rw [if_pos ht] at h
    have hb := hc.isBlank_of_ticks (List.isEmpty_iff.mp ht)
    rw [Plan.Settles, if_pos hb, excuse, if_pos ht]
    exact h (List.mem_singleton_self _)
  · rw [if_neg ht] at h
    rw [excuse, if_neg ht]
    exact Setting.settles_of_chartSteps h

theorem fileTolerant_filePlan :
    FileTolerant setting tree request
      (filePlan setting tree request (request.out.getD standardOut)) := by
  refine ⟨_, tree.reads_document request.input, ?_⟩
  have hrest :=
    Plan.rest_subset_of_eq (filePlan_eq setting tree request (request.out.getD standardOut))
  cases hd : (tree.document request.input).2 with
  | error issue =>
    rw [hd] at hrest
    exact hrest (List.mem_singleton_self _)
  | ok document =>
    rw [hd] at hrest
    exact settles_of_subset (sourceChart_wellFormed _ _ _) hrest

theorem folderTolerant_folderPlan :
    FolderTolerant setting tree request
      (folderPlan setting tree request false (request.out.getD standardOut)) := by
  have hplan := folderPlan_eq setting tree request (request.out.getD standardOut)
  have hrest := Plan.rest_subset_of_eq hplan
  constructor
  · exact Setting.accounts_of_said (Plan.said_of_eq hplan)
  · intro hnil
    rw [hnil] at hrest
    exact hrest List.mem_cons_self
  · intro r hr
    rw [if_neg (List.isEmpty_iff.not.mpr (List.ne_nil_of_mem hr))] at hrest
    apply settles_of_subset (sourceChart_wellFormed _ _ _)
    intro step hs
    apply hrest
    apply List.mem_append_left
    exact List.mem_flatMap.mpr ⟨r, hr, hs⟩
  · intro hlength
    have hne := List.ne_nil_of_length_pos (Nat.zero_lt_of_lt hlength)
    rw [if_neg (List.isEmpty_iff.not.mpr hne), if_pos hlength] at hrest
    apply settles_of_subset (combinedChart_wellFormed _ _)
    intro step hs
    exact hrest (List.mem_append_right _ hs)

theorem chartsOnly_plan : (plan setting tree request false).ChartsOnly := by
  have hsource (title : String) (dataset : Dataset) (path : Path) :
      (sourcePlan setting request title dataset path).ChartsOnly := by
    unfold sourcePlan
    dsimp only
    split
    · exact .say .nil _
    · exact Setting.chartsOnly_chartSteps _ _ _ _
  unfold plan
  dsimp only
  split
  · rw [filePlan_eq]
    apply Plan.ChartsOnly.append (.said _)
    split
    · exact .say .nil _
    · exact hsource _ _ _
  · rw [folderPlan_eq]
    apply Plan.ChartsOnly.append (.said _)
    split
    · exact .say (.say .nil _) _
    · apply Plan.ChartsOnly.append
      · exact .flatMap fun r _ => hsource _ _ _
      · split
        · unfold combinedPlan
          dsimp only
          split
          · exact .say .nil _
          · exact Setting.chartsOnly_chartSteps _ _ _ _
        · exact .nil

theorem readings_ne_nil_of_isEmpty {document : Document}
    (h : (Dataset.extract document groupSet).isEmpty = false) (unit : TimeUnit) :
    readings unit (.extract document groupSet) ≠ [] := by
  have hsound := Dataset.sound_extract document groupSet
  have hne : (Dataset.extract document groupSet).groups ≠ [] :=
    fun he => Bool.eq_false_iff.mp h (hsound.isEmpty_iff.mpr he)
  obtain ⟨⟨name, series⟩, he⟩ := List.exists_mem_of_ne_nil _ hne
  have hnames : groupSet.groups.map (·.name) = groups := by decide +kernel
  have hname : name ∈ groups := hnames ▸ hsound.names_sublist.subset (List.mem_map_of_mem he)
  have hget := (Fields.get?_eq_some_iff hsound.names_nodup).mpr he
  apply List.ne_nil_of_mem
  exact List.mem_filterMap.mpr ⟨name, hname, by rw [Dataset.get?, hget]; rfl⟩

theorem isDrawn_iff {chart : Chart} :
    isDrawn chart = true ↔ chart.ticks ≠ [] ∧ chart.lines ≠ [] := by
  simp [isDrawn, Chart.isBlank]

theorem isDrawn_of_readings {chart : Chart} (hc : chart.WellFormed) (h : chart.readings ≠ []) :
    isDrawn chart = true := by
  have hlines : chart.lines ≠ [] := List.map_eq_nil_iff.not.mp h
  refine isDrawn_iff.mpr ⟨fun ht => ?_, hlines⟩
  exact hlines (List.isEmpty_iff.mp (hc.isBlank_of_ticks ht))

/-- What a loader keeps of a source: a dataset of a document, which is not empty. -/
def Kept (r : Results) : Prop :=
  ∃ document, r.dataset = .extract document groupSet ∧ r.dataset.isEmpty = false

theorem kept_of_mem_loadSources {r : Results}
    (h : r ∈ (setting.loadSources tree request.input "ipc" groupSet).2) : Kept r := by
  obtain ⟨_, document, _, _, hd, he⟩ := Setting.source_of_mem_loadSources h
  exact ⟨document, hd, he⟩

theorem isDrawn_sourceChart {r : Results} (h : Kept r) (title : String) (config : Config) :
    isDrawn (sourceChart title r.dataset config) = true := by
  obtain ⟨document, hd, he⟩ := h
  apply isDrawn_of_readings (sourceChart_wellFormed _ _ _)
  rw [readings_sourceChart ⟨document, hd⟩, hd]
  exact readings_ne_nil_of_isEmpty (hd ▸ he) _

theorem isDrawn_combinedChart {results : List Results} (h : ∀ r ∈ results, Kept r)
    (hne : results ≠ []) (config : Config) : isDrawn (combinedChart results config) = true := by
  apply isDrawn_of_readings (combinedChart_wellFormed _ _)
  rw [readings_combinedChart fun r hr => (h r hr).imp fun _ hd => hd.1]
  obtain ⟨r, hr⟩ := List.exists_mem_of_ne_nil _ hne
  obtain ⟨document, hd, he⟩ := h r hr
  obtain ⟨entry, hentry⟩ := List.exists_mem_of_ne_nil _
    (readings_ne_nil_of_isEmpty (hd ▸ he) (config.unitOr .ns))
  rw [← hd] at hentry
  exact List.ne_nil_of_mem (List.mem_flatMap.mpr ⟨r, hr, List.mem_map_of_mem hentry⟩)

theorem steps_of_isDrawn {chart : Chart} (h : isDrawn chart = true) (noTicks : Plan) (path : Path) :
    (if chart.ticks.isEmpty then noTicks else setting.chartSteps request xLabel chart path) =
      Setting.drawingSteps request xLabel chart path := by
  obtain ⟨ht, hl⟩ := isDrawn_iff.mp h
  rw [if_neg (List.isEmpty_iff.not.mpr ht)]
  exact Setting.chartSteps_of_not_isBlank _ _ _ (List.isEmpty_eq_false_iff.mpr hl)

theorem folderPlan_of_loaded (joined : Bool) (out : Path)
    (h : (setting.loadSources tree request.input "ipc" groupSet).2 ≠ []) :
    let loading := setting.loadSources tree request.input "ipc" groupSet
    folderPlan setting tree request joined out =
      loading.1.map .say ++
        loading.2.flatMap (fun r => Setting.drawingSteps request xLabel
          (sourceChart r.source r.dataset setting.config) (sourcePath out r)) ++
        (if 1 < loading.2.length then
          Setting.drawingSteps request xLabel (combinedChart loading.2 setting.config)
            (combinedPath out)
        else []) ++
        if joined then [.stitch (loading.2.map (sourcePath out)) (montagePath out)] else [] := by
  intro loading
  have hkept (r : Results) (hr : r ∈ loading.2) : Kept r := kept_of_mem_loadSources hr
  have hcombined : combinedPlan setting request loading.2 (combinedPath out) =
      Setting.drawingSteps request xLabel (combinedChart loading.2 setting.config)
        (combinedPath out) :=
    steps_of_isDrawn (isDrawn_combinedChart hkept h _) _ _
  have hsingle : loading.2.flatMap (fun r =>
        sourcePlan setting request r.source r.dataset (sourcePath out r)) =
      loading.2.flatMap fun r => Setting.drawingSteps request xLabel
        (sourceChart r.source r.dataset setting.config) (sourcePath out r) :=
    List.flatMap_congr fun r hr => steps_of_isDrawn (isDrawn_sourceChart (hkept r hr) _ _) _ _
  have hdrawn : drawnPaths setting loading.2 out = loading.2.map (sourcePath out) := by
    rw [drawnPaths, List.filter_eq_self.mpr fun r hr => isDrawn_sourceChart (hkept r hr) _ _]
  have hfolder : folderPlan setting tree request false out = loading.1.map .say ++
        loading.2.flatMap (fun r => Setting.drawingSteps request xLabel
          (sourceChart r.source r.dataset setting.config) (sourcePath out r)) ++
        if 1 < loading.2.length then
          Setting.drawingSteps request xLabel (combinedChart loading.2 setting.config)
            (combinedPath out)
        else [] := by
    rw [folderPlan_eq, if_neg (List.isEmpty_iff.not.mpr h), hsingle, hcombined, List.append_assoc]
  cases joined with
  | false => exact hfolder.trans (List.append_nil _).symm
  | true =>
    rw [folderPlan_montage _ _ _ _ h, hfolder]
    dsimp only
    rw [hdrawn, if_neg (List.isEmpty_iff.not.mpr (List.map_eq_nil_iff.not.mpr h)), if_pos rfl]

theorem warning_of_folderPlan {joined : Bool} {out : Path} {text : String}
    (h : (setting.loadSources tree request.input "ipc" groupSet).2 ≠ [])
    (hw : (folderPlan setting tree request joined out).Warns text) :
    .warning text ∈ (setting.loadSources tree request.input "ipc" groupSet).1 := by
  rw [Plan.Warns, folderPlan_of_loaded joined out h] at hw
  simp only [List.mem_append] at hw
  obtain ((hw | hw) | hw) | hw := hw
  · obtain ⟨remark, hr, he⟩ := List.mem_map.mp hw
    cases he
    exact hr
  · obtain ⟨r, _, hw⟩ := List.mem_flatMap.mp hw
    exact (Setting.warning_notMem_drawingSteps _ _ _ _ _ hw).elim
  · split at hw
    · exact (Setting.warning_notMem_drawingSteps _ _ _ _ _ hw).elim
    · cases hw
  · split at hw
    · cases List.mem_singleton.mp hw
    · cases hw

theorem draw_sourceChart_mem {r : Results}
    (hr : r ∈ (setting.loadSources tree request.input "ipc" groupSet).2) (joined : Bool)
    (out : Path) : .draw (sourceChart r.source r.dataset setting.config) (sourcePath out r) ∈
      folderPlan setting tree request joined out := by
  rw [folderPlan_of_loaded joined out (List.ne_nil_of_mem hr)]
  apply List.mem_append_left
  apply List.mem_append_left
  apply List.mem_append_right
  exact List.mem_flatMap.mpr ⟨r, hr, Setting.draw_mem_drawingSteps _ _ _ _⟩

theorem draw_combinedChart_mem
    (h : 1 < (setting.loadSources tree request.input "ipc" groupSet).2.length) (joined : Bool)
    (out : Path) :
    .draw (combinedChart (setting.loadSources tree request.input "ipc" groupSet).2 setting.config)
      (combinedPath out) ∈ folderPlan setting tree request joined out := by
  have hne := List.ne_nil_of_length_pos (Nat.zero_lt_of_lt h)
  rw [folderPlan_of_loaded joined out hne, if_pos h]
  apply List.mem_append_left
  apply List.mem_append_right
  exact Setting.draw_mem_drawingSteps _ _ _ _

/-- Of a folder, each source that is loaded has a chart with ticks and lines, and so have all of
them together. The plan draws these charts and warns of nothing but what could not be loaded; the
montage takes the charts of all sources. -/
theorem plan_draws_every_source (setting : Setting) (tree : FileTree) (request : ReportRequest)
    (joined : Bool) (h : tree.isFile request.input = false) :
    let loading := setting.loadSources tree request.input "ipc" groupSet
    let out := request.out.getD standardOut
    let single (r : Results) := sourceChart r.source r.dataset setting.config
    let combined := combinedChart loading.2 setting.config
    let drawing := Setting.drawingSteps request xLabel
    let plan := plan setting tree request joined
    let outcome := setting.perform tree plan
    (∀ r ∈ loading.2, (single r).ticks ≠ [] ∧ (single r).lines ≠ []) ∧
      (loading.2 ≠ [] →
        (combined.ticks ≠ [] ∧ combined.lines ≠ []) ∧
        plan = loading.1.map .say ++
          loading.2.flatMap (fun r => drawing (single r) (sourcePath out r)) ++
          (if 1 < loading.2.length then drawing combined (combinedPath out) else []) ++
          (if joined then [.stitch (loading.2.map (sourcePath out)) (montagePath out)] else []) ∧
        ∀ text, plan.Warns text → .warning text ∈ loading.1) ∧
      (outcome.failure = none →
        (∀ r ∈ loading.2, setting.drawnRemarks (sourcePath out r) ⊆ outcome.remarks) ∧
        (1 < loading.2.length → setting.drawnRemarks (combinedPath out) ⊆ outcome.remarks)) := by
  intro loading out single combined drawing plan outcome
  have hkept (r : Results) (hr : r ∈ loading.2) : Kept r := kept_of_mem_loadSources hr
  have hplan : plan = folderPlan setting tree request joined out := if_neg (Bool.eq_false_iff.mp h)
  refine ⟨fun r hr => isDrawn_iff.mp (isDrawn_sourceChart (hkept r hr) _ _),
    fun hne => ⟨?_, ?_, ?_⟩, fun hok => ⟨fun r hr => ?_, fun hmany => ?_⟩⟩
  · exact isDrawn_iff.mp (isDrawn_combinedChart hkept hne _)
  · exact hplan.trans (folderPlan_of_loaded joined out hne)
  · intro text hw
    exact warning_of_folderPlan hne (hplan ▸ hw)
  · exact Setting.drawn_of_perform hok (hplan ▸ draw_sourceChart_mem hr joined out)
  · exact Setting.drawn_of_perform hok (hplan ▸ draw_combinedChart_mem hmany joined out)

/-- Two sources with one point each, at different counts, and one whose row has no count. -/
theorem plan_draws_every_source_two :
    let file (group label : String) : Json :=
      .object [(group, .array [.object [("name", .string label), ("avg", .int 5)]])]
    let tree : FileTree := .ofResults [("node_ipc.json", file "worker" "w (1)"),
      ("deno_ipc.json", file "worker" "w"), ("bun_ipc.json", file "http" "h (10)")]
    let setting : Setting := ⟨.standard, none⟩
    let request : ReportRequest := ⟨.ofString ".", some (.ofString "out"), false⟩
    let loaded := (setting.loadSources tree request.input "ipc" groupSet).2
    let outcome := setting.perform tree (plan setting tree request false)
    tree.isFile request.input = false ∧ loaded.map (·.source) = ["Node.js", "Bun"] ∧
      (∀ r ∈ loaded, (sourceChart r.source r.dataset .standard).lines ≠ []) ∧
      outcome.failure = none ∧
      .success "Wrote out/ipc_combined.png" ∈ outcome.remarks := by
  intro file tree setting request loaded outcome
  have hfolder : tree.isFile request.input = false := by decide +kernel
  have hok : outcome.failure = none := Option.isNone_iff_eq_none.mp (by decide +kernel)
  have hloaded : loaded.map (·.source) = ["Node.js", "Bun"] := by decide +kernel
  have hmany : 1 < loaded.length := by
    rw [← List.length_map (·.source), hloaded]
    decide
  obtain ⟨hcharts, -, hdrawn⟩ := plan_draws_every_source setting tree request false hfolder
  refine ⟨hfolder, hloaded, fun r hr => (hcharts r hr).2, hok, (hdrawn hok).2 hmany ?_⟩
  exact List.mem_cons_of_mem _ (List.mem_singleton.mpr (by decide +kernel))

end BenchCharts.Ipc

import BenchCharts.Proofs.Appearance
import BenchCharts.Proofs.Tolerance

/-!
The report on work under load names every source: in its charts, or in a warning. What escapes it is
a source with a time of one thread and no speedup that is a number.
-/

namespace BenchCharts

theorem Chart.exists_line_of_mem_views {chart : Chart} {look : Look}
    {readings : List (String × Float)} (h : (look, readings) ∈ chart.views) :
    ∃ line ∈ chart.lines, line.look = look := by
  obtain ⟨line, hl, he⟩ := List.mem_map.mp h
  exact ⟨line, hl, congrArg Prod.fst he⟩

/-- A chart is drawn, with a line of a certain look in it. -/
def Plan.Shows (plan : Plan) (chart : Chart) (path : Path) (look : Look) : Prop :=
  .draw chart path ∈ plan ∧ ∃ line ∈ chart.lines, line.look = look

theorem Plan.Settles.shows {plan : Plan} {chart : Chart} {path : Path} {text : String}
    (h : plan.Settles chart path text) {look : Look}
    (hl : ∃ line ∈ chart.lines, line.look = look) : plan.Shows chart path look := by
  have hblank : chart.isBlank = false := by
    obtain ⟨line, hm, _⟩ := hl
    exact List.isEmpty_eq_false_iff.mpr (List.ne_nil_of_mem hm)
  unfold Settles at h
  rw [hblank] at h
  exact ⟨h, hl⟩

namespace Load

theorem mem_views {r : Results} {s : Scaling} (hs : scaling? r = some s)
    {pick : Scaling → CountSeries} (h : (pick s).usable ≠ []) (theme : Theme) :
    (s.look theme, (pick s).usable.map fun point => (toString point.1, point.2)) ∈
      views theme pick r := by
  apply List.mem_filter.mpr
  constructor
  · rw [hs]
    exact List.mem_singleton_self _
  · rw [Bool.not_eq_true', List.isEmpty_eq_false_iff]
    exact List.map_eq_nil_iff.not.mpr h

theorem exists_line {results : List Results} {r : Results} (hr : r ∈ results) {s : Scaling}
    (hs : scaling? r = some s) (hspeedup : s.speedup.usable ≠ [])
    (hefficiency : s.efficiency.usable ≠ []) (config : Config) :
    (∃ line ∈ (speedupChart (results.filterMap scaling?) config).lines,
        line.look = s.look config.theme) ∧
      ∃ line ∈ (efficiencyChart (results.filterMap scaling?) config).lines,
        line.look = s.look config.theme := by
  obtain ⟨ideal, hviews, _⟩ := views_speedupChart results config
  have hmem := List.mem_flatMap.mpr ⟨r, hr, mem_views hs hspeedup config.theme⟩
  have hmem' := List.mem_flatMap.mpr ⟨r, hr, mem_views hs hefficiency config.theme⟩
  rw [← views_efficiencyChart] at hmem'
  have hmem₁ := List.mem_append_left ideal hmem
  rw [← hviews] at hmem₁
  exact ⟨Chart.exists_line_of_mem_views hmem₁, Chart.exists_line_of_mem_views hmem'⟩

/-- Why a source is left out, in the words of a warning that names it. -/
def Excuses (setting : Setting) (tree : FileTree) (request : ReportRequest) (source : Source)
    (index : Nat) (text : String) : Prop :=
  text = noBaseline source.name ∨ ∃ issue,
    Results.Loads tree request.input "withload" groupSet source index (.error issue) ∧
      text = issue.skipWarning setting.home source.name

variable (setting : Setting) (tree : FileTree) (request : ReportRequest)

theorem excused_or_timed {source : Source} {index : Nat}
    (hs : (source, index) ∈ setting.config.sources.zipIdx) :
    let loading := setting.loadSources tree request.input "withload" groupSet
    (∃ text, Excuses setting tree request source index text ∧
        .warning text ∈ loading.1 ++ loading.2.flatMap scalingRemarks) ∨
      ∃ r ∈ loading.2, r.source = source.name ∧ r.index = index ∧
        ∃ document times one, r.dataset = .extract document groupSet ∧ times? r = some times ∧
          times.get? 1 = some one := by
  intro loading
  have hloads := Results.loads_load tree request.input "withload" groupSet source index
  cases hl : (Results.load tree request.input "withload" groupSet source index).2 with
  | error issue =>
    rw [hl] at hloads
    have hwarning := Setting.warning_of_load_eq_error hs hl
    exact .inl ⟨_, .inr ⟨issue, hloads, rfl⟩, List.mem_append_left _ hwarning⟩
  | ok r =>
    rw [hl] at hloads
    have hr : r ∈ loading.2 := Setting.mem_loadSources_iff.mpr ⟨source, index, hs, hl⟩
    cases hloads with
    | @loaded path document _ _ he =>
      let r : Results := ⟨source.name, index, path, .extract document groupSet⟩
      obtain ⟨times, ht⟩ : ∃ times, times? r = some times := times?_of_not_isEmpty rfl he
      cases hone : times.get? 1 with
      | none =>
        have hwarning := List.mem_flatMap.mpr ⟨_, hr, noBaseline_mem_scalingRemarks ht hone⟩
        exact .inl ⟨_, .inl rfl, List.mem_append_right _ hwarning⟩
      | some one => exact .inr ⟨_, hr, rfl, rfl, document, times, one, rfl, ht, hone⟩

variable {tree request}

theorem usable_of_ratio {r : Results} {document : Document}
    (hd : r.dataset = .extract document groupSet) {times : CountSeries} {one : Float}
    (ht : times? r = some times) {point : Nat × Float} (hp : point ∈ times.entries)
    (hn : (ratio one point.2).isNaN = false) :
    let speedup : CountSeries := times.mapValues fun _ t => ratio one t
    speedup.usable ≠ [] ∧ (efficiency speedup).usable ≠ [] := by
  intro speedup
  have hm : (point.1, ratio one point.2) ∈ speedup.usable := by
    apply List.mem_filter.mpr
    exact ⟨List.mem_map_of_mem hp, by rw [hn]; rfl⟩
  refine ⟨List.ne_nil_of_mem hm, ?_⟩
  rw [usable_efficiency ((bounded_times hd ht).mapValues _)]
  exact List.map_eq_nil_iff.not.mpr (List.ne_nil_of_mem hm)

/-- Every source is named in a warning, or it has a time of one thread. Then, if one of its speedups
is a number, it has a line of its own in both charts. -/
theorem sources_shown_or_named {environment : Environment} {arguments : List String}
    {invocation : Invocation} {said : List Remark} {config : Config}
    (ha : CommandLine.read arguments = .ok invocation) (hl : invocation.command = .load request)
    (hc : Config.load environment tree invocation.config = (said, .ok config))
    {source : Source} {index : Nat} (hs : (source, index) ∈ config.sources.zipIdx) :
    let setting : Setting := ⟨config, environment.home⟩
    let loaded := (setting.loadSources tree request.input "withload" groupSet).2
    let scalings := loaded.filterMap scaling?
    let plan := invocation.command.plan setting tree
    let transcript := Transcript.ofRun environment tree arguments
    let look : Look :=
      ⟨source.name, config.theme.sourceColor source.name index, .ofIndex index, .solid⟩
    (∃ text, Excuses setting tree request source index text ∧ ∃ line,
        (Voice.of environment invocation.verbosity).line? (.warning text) = some line ∧
          transcript.Prints line) ∨
      ∃ r ∈ loaded, r.source = source.name ∧ r.index = index ∧
        ∃ times one, times? r = some times ∧ times.get? 1 = some one ∧
          ((∃ point ∈ times.entries, (ratio one point.2).isNaN = false) →
            plan.Shows (speedupChart scalings config) (speedupPath request) look ∧
              plan.Shows (efficiencyChart scalings config) (efficiencyPath request) look) := by
  intro setting loaded scalings plan transcript look
  have hplan : plan = Load.plan setting tree request := by
    unfold plan
    rw [hl]
    rfl
  rcases excused_or_timed setting tree request hs with ⟨text, he, hm⟩ |
    ⟨r, hr, hname, hindex, document, times, one, hd, ht, hone⟩
  · refine .inl ⟨text, he, ?_⟩
    have hsaid : .warning text ∈ (setting.perform tree plan).remarks := by
      rw [hplan, plan_eq]
      exact Setting.said_first_of_perform hm _
    unfold transcript
    rw [Transcript.ofRun_eq ha hc]
    exact Transcript.prints_notice (List.mem_append_right _ hsaid)
  · refine .inr ⟨r, hr, hname, hindex, times, one, ht, hone, ?_⟩
    rintro ⟨point, hp, hn⟩
    let s : Scaling := ⟨r.source, r.index, times.mapValues fun _ t => ratio one t⟩
    have hscaling : scaling? r = some s := scaling?_eq_some_iff.mpr ⟨times, one, ht, hone, rfl⟩
    obtain ⟨husable, husable'⟩ := usable_of_ratio hd ht hp hn
    have hlook : s.look config.theme = look := by
      unfold s Scaling.look
      rw [hname, hindex]
    obtain ⟨hline, hline'⟩ := exists_line hr hscaling husable husable' config
    rw [hlook] at hline hline'
    have hne : scalings ≠ [] :=
      List.ne_nil_of_mem (List.mem_filterMap.mpr ⟨r, hr, hscaling⟩)
    obtain ⟨hspeedup, hefficiency⟩ := tolerant_plan.charts hne
    rw [hplan]
    exact ⟨hspeedup.shows hline, hefficiency.shows hline'⟩

/-- The second source has no time of one thread, the third has no file. -/
theorem sources_shown_or_named_no_baseline :
    let row (name : String) (time : Int) : Json :=
      .object [("name", .string name), ("avg", .int time)]
    let file (rows : List Json) : Json := .object [("knitting: primes", .array rows)]
    let tree : FileTree := .ofResults [
      ("node_withload.json", file [row "main" 800, row "main + 1 extra threads" 400]),
      ("deno_withload.json", file [row "main + 1 extra threads" 400])]
    let environment : Environment := { home := none }
    let arguments := ["withload", "-i", ".", "-o", "out"]
    let request : ReportRequest := ⟨.ofString ".", some (.ofString "out"), false⟩
    let invocation : Invocation := ⟨.load request, none, 0⟩
    let setting : Setting := ⟨.standard, none⟩
    let deno : Source := ⟨"Deno", "deno", none⟩
    let loaded := (setting.loadSources tree request.input "withload" groupSet).2
    CommandLine.read arguments = .ok invocation ∧
      (Config.load environment tree invocation.config).2 = .ok .standard ∧
      (deno, 1) ∈ Config.standard.sources.zipIdx ∧
      (∃ text, Excuses setting tree request deno 1 text ∧ ∃ line,
        (Voice.of environment 0).line? (.warning text) = some line ∧
          (Transcript.ofRun environment tree arguments).Prints line) ∧
      (speedupChart (loaded.filterMap scaling?) .standard).lines.map (·.label) =
        ["Node.js", "Ideal linear"] := by
  intro row file tree environment arguments request invocation setting deno loaded
  have ha : CommandLine.read arguments = .ok invocation := by rfl
  have hc : Config.load environment tree invocation.config =
    ([.debug "No config directory available; using defaults"], .ok .standard) := by rfl
  have hs : (deno, 1) ∈ Config.standard.sources.zipIdx := List.mem_cons_of_mem _ List.mem_cons_self
  refine ⟨ha, congrArg Prod.snd hc, hs, ?_, by decide +kernel⟩
  have huntimed : loaded.all fun r =>
      r.index != 1 || ((times? r).bind (·.get? 1)).isNone := by decide +kernel
  rcases sources_shown_or_named ha rfl hc hs with hnamed | ⟨r, hr, -, hi, times, one, ht, ho, -⟩
  · exact hnamed
  · have hr := List.all_eq_true.mp huntimed r hr
    rw [hi, ht, Option.bind_some, ho] at hr
    cases hr

/-- The first source has a time of one thread that is not positive, so its one speedup is no number.
It is in neither chart, and there is no warning at all. -/
theorem source_without_line_or_warning :
    let row (name : String) (time : Int) : Json :=
      .object [("name", .string name), ("avg", .int time)]
    let file (rows : List Json) : Json := .object [("knitting: primes", .array rows)]
    let good := file [row "main" 800, row "main + 1 extra threads" 400]
    let tree : FileTree := .ofResults [("node_withload.json", file [row "main" 0]),
      ("deno_withload.json", good), ("bun_withload.json", good)]
    let environment : Environment := { home := none }
    let request : ReportRequest := ⟨.ofString ".", some (.ofString "out"), false⟩
    let invocation : Invocation := ⟨.load request, none, 0⟩
    let setting : Setting := ⟨.standard, none⟩
    let loaded := (setting.loadSources tree request.input "withload" groupSet).2
    let scalings := loaded.filterMap scaling?
    CommandLine.read ["withload", "-i", ".", "-o", "out"] = .ok invocation ∧
      (Config.load environment tree invocation.config).2 = .ok .standard ∧
      loaded.map (·.source) = ["Node.js", "Deno", "Bun"] ∧
      (invocation.run environment tree).failure.isNone ∧
      (∀ text, .warning text ∉ (invocation.run environment tree).remarks) ∧
      (speedupChart scalings .standard).lines.map (·.label) = ["Deno", "Bun", "Ideal linear"] ∧
      (efficiencyChart scalings .standard).lines.map (·.label) = ["Deno", "Bun"] := by
  intro row file good tree environment request invocation setting loaded scalings
  let outcome := invocation.run environment tree
  obtain ⟨hok, hsilent⟩ :
      outcome.failure.isNone ∧ outcome.remarks.any Remark.isWarning = false := by decide +kernel
  have hloaded : loaded.map (·.source) = ["Node.js", "Deno", "Bun"] ∧
      (speedupChart scalings .standard).lines.map (·.label) = ["Deno", "Bun", "Ideal linear"] ∧
      (efficiencyChart scalings .standard).lines.map (·.label) = ["Deno", "Bun"] := by
    decide +kernel
  exact ⟨by rfl, by rfl, hloaded.1, hok, Remark.warning_notMem hsilent, hloaded.2⟩

end Load

end BenchCharts

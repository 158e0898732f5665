import BenchCharts.Plan.Load
import BenchCharts.Proofs.Plan.Loading
import BenchCharts.Proofs.Report.Load

/-!
The plan of the report on work under load: a source that is loaded has times, and if one of them is
of one thread it has a speedup.
-/

namespace BenchCharts.Load

variable (setting : Setting) (tree : FileTree) (request : ReportRequest)

def noBaseline (source : String) : String :=
  s!"{source}: no 'main' baseline found (threads=1); skipping"

def speedupPath : Path :=
  request.out.getD standardOut / .ofString "withload_speedup.png"

def efficiencyPath : Path :=
  request.out.getD standardOut / .ofString "withload_efficiency.png"

structure Tolerant (plan : Plan) : Prop where
  sources : setting.Accounts tree request.input "withload" groupSet plan
  /-- The times of a source are never missing, but there may be none of one thread. -/
  baseline : ∀ r ∈ (setting.loadSources tree request.input "withload" groupSet).2,
    ∃ times, times? r = some times ∧
      if (times.get? 1).isNone then plan.Warns (noBaseline r.source) else (scaling? r).isSome
  nothing : (setting.loadSources tree request.input "withload" groupSet).2.filterMap scaling? = [] →
    plan.Warns "No speedup data to plot"
  charts : let scalings :=
      (setting.loadSources tree request.input "withload" groupSet).2.filterMap scaling?
    let speedup := speedupChart scalings setting.config
    let efficiency := efficiencyChart scalings setting.config
    scalings ≠ [] →
      plan.Settles speedup (speedupPath request)
          (setting.blankWarning speedup (speedupPath request)) ∧
        plan.Settles efficiency (efficiencyPath request)
          (setting.blankWarning efficiency (efficiencyPath request))

theorem plan_eq :
    let loading := setting.loadSources tree request.input "withload" groupSet
    let scalings := loading.2.filterMap scaling?
    plan setting tree request =
      (loading.1 ++ loading.2.flatMap scalingRemarks).map .say ++
        if scalings.isEmpty then
          .say (.warning "No speedup data to plot") ::
            if loading.2.isEmpty then [.say inputHint] else []
        else
          setting.chartSteps request xLabel (speedupChart scalings setting.config)
              (speedupPath request) ++
            setting.chartSteps request xLabel (efficiencyChart scalings setting.config)
              (efficiencyPath request) := by
  unfold plan
  rcases setting.loadSources tree request.input "withload" groupSet with ⟨said, loaded⟩
  rfl

variable {setting tree request}

theorem noBaseline_mem_scalingRemarks {results : Results} {times : CountSeries}
    (ht : times? results = some times) (h : times.get? 1 = none) :
    .warning (noBaseline results.source) ∈ scalingRemarks results := by
  unfold scalingRemarks
  rw [ht]
  dsimp only
  rw [speedup?, h]
  exact List.mem_singleton_self _

theorem tolerant_plan : Tolerant setting tree request (plan setting tree request) := by
  have hplan := plan_eq setting tree request
  have hsaid := Plan.said_of_eq hplan
  have hrest := Plan.rest_subset_of_eq hplan
  constructor
  · exact Setting.accounts_of_said fun remark hr => hsaid remark (List.mem_append_left _ hr)
  · intro r hr
    obtain ⟨source, document, _, _, hd, he⟩ := Setting.source_of_mem_loadSources hr
    obtain ⟨times, ht⟩ := times?_of_not_isEmpty hd he
    refine ⟨times, ht, ?_⟩
    cases hone : times.get? 1 with
    | none =>
      apply hsaid
      apply List.mem_append_right
      exact List.mem_flatMap.mpr ⟨r, hr, noBaseline_mem_scalingRemarks ht hone⟩
    | some one => exact Option.isSome_of_mem (scaling?_eq_some_iff.mpr ⟨times, one, ht, hone, rfl⟩)
  · intro hnil
    rw [hnil] at hrest
    exact hrest List.mem_cons_self
  · intro scalings speedup efficiency hne
    rw [if_neg (List.isEmpty_iff.not.mpr hne)] at hrest
    constructor
    · exact Setting.settles_of_chartSteps (List.Subset.trans (List.subset_append_left _ _) hrest)
    · exact Setting.settles_of_chartSteps (List.Subset.trans (List.subset_append_right _ _) hrest)

theorem chartsOnly_plan : (plan setting tree request).ChartsOnly := by
  rw [plan_eq]
  apply Plan.ChartsOnly.append (.said _)
  split
  · apply Plan.ChartsOnly.say
    split
    · exact .say .nil _
    · exact .nil
  · exact .append (Setting.chartsOnly_chartSteps _ _ _ _) (Setting.chartsOnly_chartSteps _ _ _ _)

end BenchCharts.Load

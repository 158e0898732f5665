import BenchCharts.Proofs.Plan.Ipc
import BenchCharts.Proofs.Plan.Load
import BenchCharts.Proofs.Plan.Overlay
import BenchCharts.Proofs.Plan.Types
import BenchCharts.Session

/-!
A report comes to its end whatever is in the result files: what is wrong with them is said in
warnings, and the run fails only where a picture cannot be written.
-/

namespace BenchCharts

namespace Remark

def isWarning : Remark → Bool
  | .notice said => said.kind == .warning
  | _ => false

theorem warning_notMem {remarks : List Remark} (h : remarks.any isWarning = false)
    (text : String) : .warning text ∉ remarks := by
  intro hm
  exact List.any_eq_false.mp h _ hm rfl

end Remark

namespace Command

/-- The commands that draw charts and join no pictures. -/
def IsReport : Command → Prop
  | .ipc _ joined => joined = false
  | .montage _ _ => False
  | _ => True

/-- What a plan does about the input of a command. -/
def Tolerates (setting : Setting) (tree : FileTree) (plan : Plan) : Command → Prop
  | .ipc request _ =>
    if tree.isFile request.input then Ipc.FileTolerant setting tree request plan
    else Ipc.FolderTolerant setting tree request plan
  | .overlay kind request => kind.Tolerant setting tree request plan
  | .types request => Types.Tolerant setting tree request plan
  | .load request => Load.Tolerant setting tree request plan
  | .montage _ _ => True

variable {command : Command} (setting : Setting) (tree : FileTree)

theorem IsReport.tolerates_plan (h : command.IsReport) :
    command.Tolerates setting tree (command.plan setting tree) := by
  cases command with
  | ipc request joined =>
    cases h
    rw [Tolerates, plan, Ipc.plan]
    split
    · exact Ipc.fileTolerant_filePlan
    · exact Ipc.folderTolerant_folderPlan
  | overlay kind request => exact kind.tolerant_plan setting tree request
  | types request => exact Types.tolerant_plan
  | load request => exact Load.tolerant_plan
  | montage images out => exact trivial

theorem IsReport.chartsOnly_plan (h : command.IsReport) :
    (command.plan setting tree).ChartsOnly := by
  cases command with
  | ipc request joined =>
    cases h
    exact Ipc.chartsOnly_plan
  | overlay kind request => exact kind.chartsOnly_plan setting tree request
  | types request => exact Types.chartsOnly_plan
  | load request => exact Load.chartsOnly_plan
  | montage images out => exact h.elim

end Command

namespace Transcript

def Prints (transcript : Transcript) (text : String) : Prop :=
  ∃ before after, transcript.stderr = before ++ text ++ after

theorem prints_ofOutcome {voice : Voice} {outcome : Outcome} {remark : Remark} {line : String}
    (hr : remark ∈ outcome.remarks) (hl : voice.line? remark = some line) :
    (ofOutcome voice outcome).Prints line := by
  obtain ⟨before, after, hs⟩ := List.append_of_mem hr
  unfold Prints ofOutcome
  dsimp only
  rw [hs, List.append_assoc, List.cons_append, List.filterMap_append, List.filterMap_cons, hl,
    String.join_append, String.join_cons, ← String.append_assoc]
  exact ⟨_, _, rfl⟩

theorem prints_notice {voice : Voice} {outcome : Outcome} {notice : Notice}
    (hr : .notice notice ∈ outcome.remarks) :
    ∃ line, voice.line? (.notice notice) = some line ∧ (ofOutcome voice outcome).Prints line :=
  ⟨_, rfl, prints_ofOutcome hr rfl⟩

theorem ofRun_eq {environment : Environment} {tree : FileTree} {arguments : List String}
    {invocation : Invocation} {said : List Remark} {config : Config}
    (ha : CommandLine.read arguments = .ok invocation)
    (hc : Config.load environment tree invocation.config = (said, .ok config)) :
    ofRun environment tree arguments = ofOutcome (.of environment invocation.verbosity)
      ((Setting.perform ⟨config, environment.home⟩ tree
        (invocation.command.plan ⟨config, environment.home⟩ tree)).after said) := by
  rw [ofRun, ha]
  dsimp only
  rw [Invocation.run, hc]

/-- A report ends well, with all its warnings printed and all its charts drawn, unless one of the
charts cannot be written. -/
theorem reports_tolerate_their_input {environment : Environment} {tree : FileTree}
    {arguments : List String} {invocation : Invocation} {said : List Remark} {config : Config}
    (ha : CommandLine.read arguments = .ok invocation) (hr : invocation.command.IsReport)
    (hc : Config.load environment tree invocation.config = (said, .ok config)) :
    let setting : Setting := ⟨config, environment.home⟩
    let plan := invocation.command.plan setting tree
    let voice := Voice.of environment invocation.verbosity
    let transcript := ofRun environment tree arguments
    invocation.command.Tolerates setting tree plan ∧
      ((transcript.exit = 0 ∧
          (∀ text, plan.Warns text → ∃ line,
            voice.line? (.warning text) = some line ∧ transcript.Prints line) ∧
          ∀ chart path, .draw chart path ∈ plan → ∃ line,
            voice.line? (.success s!"Wrote {path.shown setting.home}") = some line ∧
              transcript.Prints line) ∨
        (transcript.exit = 1 ∧ ∃ before chart path after failure,
          plan = before ++ .draw chart path :: after ∧
          (setting.perform tree before).failure = none ∧
          (setting.draw (setting.perform tree before).tree chart path).failure = some failure ∧
          failure.IsOfWriting path)) := by
  intro setting plan voice transcript
  refine ⟨hr.tolerates_plan setting tree, ?_⟩
  have htranscript : transcript = ofOutcome voice ((setting.perform tree plan).after said) :=
    ofRun_eq ha hc
  cases hf : (setting.perform tree plan).failure with
  | some failure =>
    obtain ⟨before, chart, path, after, hp, hb, hd, hw⟩ :=
      Setting.failure_of_perform_charts (hr.chartsOnly_plan setting tree) hf
    refine .inr ⟨?_, before, chart, path, after, failure, hp, hb, hd, hw⟩
    rw [htranscript, ofOutcome, Outcome.after, hf]
    rfl
  | none =>
    refine .inl ⟨?_, fun text ht => ?_, fun chart path hd => ?_⟩
    · rw [htranscript, ofOutcome, Outcome.after, hf]
      rfl
    · have hm := Setting.said_of_perform hf ht
      rw [htranscript]
      exact prints_notice (List.mem_append_right _ hm)
    · have hm : Remark.success s!"Wrote {path.shown setting.home}" ∈
          (setting.perform tree plan).remarks :=
        Setting.drawn_of_perform hf hd (List.mem_cons_of_mem _ (List.mem_singleton_self _))
      rw [htranscript]
      exact prints_notice (List.mem_append_right _ hm)

/-- One source to draw, one whose file is no document, and one without knitting. -/
theorem reports_tolerate_their_input_latency :
    let row : Json := .object [("name", .string "w (1)"), ("avg", .int 5)]
    let good : Json := .object [("worker", .array [row]), ("knitting", .array [row])]
    let tree : FileTree := .ofResults [("node_latency.json", good),
      ("deno_latency.json", .string "oops"),
      ("bun_latency.json", .object [("worker", .array [row])])]
    let environment : Environment := { home := none }
    let arguments := ["latency", "-i", ".", "-o", "out/latency.png"]
    let request : ReportRequest := ⟨.ofString ".", some (.ofString "out/latency.png"), false⟩
    let invocation : Invocation := ⟨.overlay .latency request, none, 0⟩
    let transcript := ofRun environment tree arguments
    let texts := [
      "Malformed input ./deno_latency.json: no JSON object or array found, skipping Deno",
      "Bun: needs both worker and knitting results; skipping"]
    CommandLine.read arguments = .ok invocation ∧ invocation.command.IsReport ∧
      (Config.load environment tree invocation.config).2 = .ok .standard ∧ transcript.exit = 0 ∧
      ∀ text ∈ texts, ∃ line,
        (Voice.of environment 0).line? (.warning text) = some line ∧ transcript.Prints line := by
  intro row good tree environment arguments request invocation transcript texts
  have ha : CommandLine.read arguments = .ok invocation := by rfl
  have hr : invocation.command.IsReport := trivial
  have hc : Config.load environment tree invocation.config =
    ([.debug "No config directory available; using defaults"], .ok .standard) := by rfl
  have hexit : transcript.exit = 0 := by decide +kernel
  obtain ⟨-, ⟨-, hwarned, -⟩ | ⟨hfailed, -⟩⟩ := reports_tolerate_their_input ha hr hc
  · refine ⟨ha, hr, congrArg Prod.snd hc, hexit, fun text ht => hwarned text ?_⟩
    have hsays : texts.all fun text =>
        (invocation.command.plan ⟨.standard, none⟩ tree).any fun step =>
          match step with
          | .say remark => remark = .warning text
          | _ => false := by decide +kernel
    obtain ⟨step, hm, hstep⟩ := List.any_eq_true.mp (List.all_eq_true.mp hsays text ht)
    cases step with
    | say remark =>
      have he : remark = .warning text := of_decide_eq_true hstep
      rw [he] at hm
      exact hm
    | draw chart path => cases hstep
    | stitch inputs out => cases hstep
  · rw [hexit] at hfailed
    cases hfailed

/-- No source has a group but worker, and no warning says so. -/
theorem absent_groups_without_warning :
    let row : Json := .object [("name", .string "w (1)"), ("avg", .int 5)]
    let file : Json := .object [("worker", .array [row])]
    let tree : FileTree :=
      .ofResults [("node_ipc.json", file), ("deno_ipc.json", file), ("bun_ipc.json", file)]
    let environment : Environment := { home := none }
    let arguments := ["ipc", "-i", ".", "-o", "out"]
    let request : ReportRequest := ⟨.ofString ".", some (.ofString "out"), false⟩
    let invocation : Invocation := ⟨.ipc request false, none, 0⟩
    let loaded := (Setting.loadSources ⟨.standard, none⟩ tree request.input "ipc" Ipc.groupSet).2
    CommandLine.read arguments = .ok invocation ∧ invocation.command.IsReport ∧
      loaded.map (·.source) = ["Node.js", "Deno", "Bun"] ∧
      (∀ r ∈ loaded, (r.dataset.get? "http").isNone) ∧
      ∀ text, .warning text ∉ (invocation.run environment tree).remarks := by
  intro row file tree environment arguments request invocation loaded
  have hsilent : (invocation.run environment tree).remarks.any Remark.isWarning = false := by
    decide +kernel
  exact ⟨by rfl, rfl, by decide +kernel, by decide +kernel, Remark.warning_notMem hsilent⟩

end Transcript

end BenchCharts

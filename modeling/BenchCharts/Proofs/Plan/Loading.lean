import BenchCharts.Plan.Loading
import BenchCharts.Proofs.Plan.Perform

/-!
How reports come by their input, and what a plan does about a chart. Nothing that is wrong with a
file ends the loading: it becomes an issue, and the plan warns of the issue and goes on.
-/

namespace BenchCharts

/-- A folder of result files. -/
def FileTree.ofResults (files : List (String × Json)) : FileTree :=
  ⟨[], ([], .folder) :: files.map fun (name, results) =>
    ([name], .file (.text (String.ofList results.compact)))⟩

def Plan.Warns (plan : Plan) (text : String) : Prop :=
  .say (.warning text) ∈ plan

/-- A chart is drawn, or it is blank and a warning says so. -/
def Plan.Settles (plan : Plan) (chart : Chart) (path : Path) (text : String) : Prop :=
  if chart.isBlank then plan.Warns text else .draw chart path ∈ plan

theorem Plan.said_of_eq {plan rest : Plan} {said : List Remark}
    (h : plan = said.map .say ++ rest) : ∀ remark ∈ said, .say remark ∈ plan := by
  intro remark hr
  rw [h]
  exact List.mem_append_left _ (List.mem_map_of_mem hr)

theorem Plan.rest_subset_of_eq {plan rest : Plan} {said : List Remark}
    (h : plan = said.map .say ++ rest) : rest ⊆ plan := by
  rw [h]
  exact List.subset_append_right _ _

/-- What reading a file comes to: the document in it, or what is wrong. -/
inductive FileTree.Reads (tree : FileTree) (path : Path) : Except Issue Document → Prop where
  | unreadable {e : FileError} (h : tree.readText path = .error e) :
    Reads tree path
      (.error (.missing (String.ofList (path.fileName?.getD [])) (path.parent?.getD ⟨[]⟩)))
  | malformed {text : String} {flaw : Document.Flaw} (h : tree.readText path = .ok text)
      (hf : Document.ofText text.toList = .error flaw) :
    Reads tree path (.error (.malformed path flaw.message))
  | decoded {text : String} {document : Document} (h : tree.readText path = .ok text)
      (hd : Document.ofText text.toList = .ok document) :
    Reads tree path (.ok document)

theorem FileTree.reads_document (tree : FileTree) (path : Path) :
    tree.Reads path (tree.document path).2 := by
  unfold document
  cases h : tree.readText path with
  | error e => exact .unreadable h
  | ok text =>
    dsimp only
    cases hd : Document.ofText text.toList with
    | error flaw => exact .malformed h hd
    | ok document => exact .decoded h hd

namespace Results

/-- What loading a source comes to: its results, or what is wrong with its file. -/
inductive Loads (tree : FileTree) (input : Path) (kind : String) (set : GroupSet) (source : Source)
    (index : Nat) : Except Issue Results → Prop where
  | notFound (h : ∀ path ∈ source.candidates input (source.fileName kind),
      tree.isFile path = false) :
    Loads tree input kind set source index (.error (.missing (source.fileName kind) input))
  | notRead {path : Path} {issue : Issue}
      (hp : (source.candidates input (source.fileName kind)).find? tree.isFile = some path)
      (hr : tree.Reads path (.error issue)) :
    Loads tree input kind set source index (.error issue)
  | empty {path : Path} {document : Document}
      (hp : (source.candidates input (source.fileName kind)).find? tree.isFile = some path)
      (hr : tree.Reads path (.ok document))
      (he : (Dataset.extract document set).isEmpty = true) :
    Loads tree input kind set source index (.error (.empty (source.fileName kind)))
  | loaded {path : Path} {document : Document}
      (hp : (source.candidates input (source.fileName kind)).find? tree.isFile = some path)
      (hr : tree.Reads path (.ok document))
      (he : (Dataset.extract document set).isEmpty = false) :
    Loads tree input kind set source index
      (.ok ⟨source.name, index, path, .extract document set⟩)

theorem snd_ofFile (tree : FileTree) (set : GroupSet) (source : String) (index : Nat)
    (path : Path) : (ofFile tree set source index path).2 =
      (tree.document path).2.map fun document =>
        ⟨source, index, path, .extract document set⟩ := by
  unfold ofFile
  rcases tree.document path with ⟨said, issue | document⟩ <;> rfl

theorem debug_of_mem_ofFile {tree : FileTree} {set : GroupSet} {source : String} {index : Nat}
    {path : Path} {remark : Remark} (h : remark ∈ (ofFile tree set source index path).1) :
    ∃ text, remark = .debug text := by
  have hdocument : ∀ remark ∈ (tree.document path).1, ∃ text, remark = .debug text := by
    unfold FileTree.document
    split
    · exact List.forall_mem_singleton.mpr ⟨_, rfl⟩
    · intro remark hm
      obtain ⟨text, _, rfl⟩ := List.mem_map.mp hm
      exact ⟨text, rfl⟩
  unfold ofFile at h
  split at h
  · next hd => exact hdocument remark (hd ▸ h)
  · next hd =>
    rcases List.mem_append.mp h with h | h
    · exact hdocument remark (hd ▸ h)
    · obtain ⟨text, _, rfl⟩ := List.mem_map.mp h
      exact ⟨text, rfl⟩

theorem loads_load (tree : FileTree) (input : Path) (kind : String) (set : GroupSet)
    (source : Source) (index : Nat) :
    Loads tree input kind set source index (load tree input kind set source index).2 := by
  unfold load FileTree.search
  dsimp only
  cases hp : (source.candidates input (source.fileName kind)).find? tree.isFile with
  | none =>
    apply Loads.notFound
    intro path hm
    exact Bool.eq_false_iff.mpr (List.find?_eq_none.mp hp path hm)
  | some path =>
    have hr := tree.reads_document path
    dsimp only
    rw [snd_ofFile]
    cases hd : (tree.document path).2 with
    | error issue =>
      rw [hd] at hr
      exact .notRead hp hr
    | ok document =>
      rw [hd] at hr
      dsimp only [Except.map]
      cases he : (Dataset.extract document set).isEmpty with
      | true => exact .empty hp hr he
      | false => exact .loaded hp hr he

end Results

theorem toOption_eq_some_iff {result : Except ε α} {a : α} :
    result.toOption = some a ↔ result = .ok a := by
  cases result with
  | error e => exact iff_of_false nofun nofun
  | ok b => simp only [Except.toOption, Option.some.injEq, Except.ok.injEq]

namespace Setting

variable {setting : Setting} {tree : FileTree} {input : Path} {kind : String} {set : GroupSet}

theorem mem_loadSources_iff {results : Results} :
    results ∈ (setting.loadSources tree input kind set).2 ↔
      ∃ source index, (source, index) ∈ setting.config.sources.zipIdx ∧
        (Results.load tree input kind set source index).2 = .ok results := by
  rw [loadSources, List.mem_filterMap]
  constructor
  · rintro ⟨loading, hl, hr⟩
    obtain ⟨⟨source, index⟩, hs, rfl⟩ := List.mem_map.mp hl
    exact ⟨source, index, hs, toOption_eq_some_iff.mp hr⟩
  · rintro ⟨source, index, hs, hr⟩
    exact ⟨_, List.mem_map_of_mem hs, toOption_eq_some_iff.mpr hr⟩

theorem warning_of_load_eq_error {source : Source} {index : Nat} {issue : Issue}
    (hs : (source, index) ∈ setting.config.sources.zipIdx)
    (h : (Results.load tree input kind set source index).2 = .error issue) :
    .warning (issue.skipWarning setting.home source.name) ∈
      (setting.loadSources tree input kind set).1 := by
  apply List.mem_flatMap.mpr
  refine ⟨_, List.mem_map_of_mem hs, ?_⟩
  dsimp only
  rcases hl : Results.load tree input kind set source index with ⟨said, loading⟩
  rw [hl] at h
  cases h
  exact List.mem_append_right _ (List.mem_singleton_self _)

theorem loads_of_mem_loadSources {results : Results}
    (h : results ∈ (setting.loadSources tree input kind set).2) :
    ∃ source index, setting.config.sources[index]? = some source ∧
      Results.Loads tree input kind set source index (.ok results) := by
  obtain ⟨source, index, hs, hl⟩ := mem_loadSources_iff.mp h
  have hloads := Results.loads_load tree input kind set source index
  rw [hl] at hloads
  exact ⟨source, index, List.mem_zipIdx_iff_getElem?.mp hs, hloads⟩

theorem source_of_mem_loadSources {results : Results}
    (h : results ∈ (setting.loadSources tree input kind set).2) :
    ∃ source document, setting.config.sources[results.index]? = some source ∧
      results.source = source.name ∧ results.dataset = .extract document set ∧
      results.dataset.isEmpty = false := by
  obtain ⟨source, index, hs, hloads⟩ := loads_of_mem_loadSources h
  cases hloads with
  | @loaded path document _ _ he => exact ⟨source, document, hs, rfl, rfl, he⟩

/-- Every source is among the results, or a plan warns of what is wrong with its file. -/
def Accounts (setting : Setting) (tree : FileTree) (input : Path) (kind : String) (set : GroupSet)
    (plan : Plan) : Prop :=
  ∀ source index, (source, index) ∈ setting.config.sources.zipIdx → ∃ loading,
    Results.Loads tree input kind set source index loading ∧
      match loading with
      | .ok results => results ∈ (setting.loadSources tree input kind set).2
      | .error issue => plan.Warns (issue.skipWarning setting.home source.name)

theorem accounts_of_said {plan : Plan}
    (h : ∀ remark ∈ (setting.loadSources tree input kind set).1, .say remark ∈ plan) :
    setting.Accounts tree input kind set plan := by
  intro source index hs
  refine ⟨_, Results.loads_load tree input kind set source index, ?_⟩
  cases hl : (Results.load tree input kind set source index).2 with
  | ok results => exact mem_loadSources_iff.mpr ⟨source, index, hs, hl⟩
  | error issue => exact h _ (warning_of_load_eq_error hs hl)

def blankWarning (setting : Setting) (chart : Chart) (path : Path) : String :=
  (Issue.empty chart.title).skipWarning setting.home (path.shown setting.home)

theorem settles_of_chartSteps {plan : Plan} {request : ReportRequest} {xHeader : String}
    {chart : Chart} {path : Path} (h : setting.chartSteps request xHeader chart path ⊆ plan) :
    plan.Settles chart path (setting.blankWarning chart path) := by
  have hdraw := List.Subset.trans (List.subset_append_right _ _) h
  unfold drawSteps at hdraw
  unfold Plan.Settles
  split
  · next hb =>
    rw [if_pos hb] at hdraw
    exact hdraw (List.mem_singleton_self _)
  · next hb =>
    rw [if_neg hb] at hdraw
    exact hdraw (List.mem_singleton_self _)

def drawingSteps (request : ReportRequest) (xHeader : String) (chart : Chart) (path : Path) :
    Plan :=
  let said : List Remark := if request.table then [.table (chart.table xHeader)] else []
  said.map .say ++ [.draw chart path]

theorem draw_mem_drawingSteps (request : ReportRequest) (xHeader : String) (chart : Chart)
    (path : Path) : .draw chart path ∈ drawingSteps request xHeader chart path :=
  List.mem_append_right _ (List.mem_singleton_self _)

theorem chartSteps_of_not_isBlank (request : ReportRequest) (xHeader : String) {chart : Chart}
    (path : Path) (h : chart.isBlank = false) :
    setting.chartSteps request xHeader chart path = drawingSteps request xHeader chart path := by
  unfold chartSteps drawSteps drawingSteps
  rw [h]
  cases request.table <;> rfl

theorem warning_notMem_drawingSteps (request : ReportRequest) (xHeader : String) (chart : Chart)
    (path : Path) (text : String) :
    .say (.warning text) ∉ drawingSteps request xHeader chart path := by
  intro hm
  rcases List.mem_append.mp hm with hm | hm
  · obtain ⟨remark, hr, he⟩ := List.mem_map.mp hm
    cases he
    split at hr
    · cases List.mem_singleton.mp hr
    · cases hr
  · cases List.mem_singleton.mp hm

theorem chartsOnly_chartSteps (request : ReportRequest) (xHeader : String) (chart : Chart)
    (path : Path) : (setting.chartSteps request xHeader chart path).ChartsOnly := by
  apply Plan.ChartsOnly.append
  · split
    · exact .say .nil _
    · exact .nil
  · unfold drawSteps
    split
    · exact .say .nil _
    · exact .draw chart path

end Setting

end BenchCharts

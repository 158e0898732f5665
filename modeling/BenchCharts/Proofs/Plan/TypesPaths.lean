import BenchCharts.Proofs.Decimal.Natural
import BenchCharts.Proofs.Plan.Images
import BenchCharts.Proofs.Plan.Types

/-!
Where the report on types of payload puts its charts. The stem of a file and a count are read back
from the name of their chart, and of two files in one folder the stems are different, so no chart is
written over another one.
-/

namespace BenchCharts

theorem FileTree.WellFormed.names_of_filesWithSuffix {tree : FileTree} (h : tree.WellFormed)
    {folder : Path} {suffix : String} {paths : List Path}
    (hp : tree.filesWithSuffix folder suffix = .ok paths) :
    paths.Nodup ∧ ∀ path ∈ paths, ∃ head, '/' ∉ head ++ suffix.toList ∧
      path = folder / ⟨head ++ suffix.toList⟩ := by
  obtain ⟨names, hl, hpaths⟩ := bind_eq_ok_iff.mp hp
  cases hpaths
  have hslash := h.slash_list hl
  constructor
  · apply List.Nodup.filter
    apply List.Nodup.map_on _ ((h.nodup_list hl).filter _)
    intro name hm name' hm' he
    have hlast := congrArg (Path.lastPiece ·.chars) he
    simp only [Path.lastPiece_join, Path.ofString] at hlast
    rw [Path.lastPiece_of_notMem (hslash name (List.mem_filter.mp hm).1),
      Path.lastPiece_of_notMem (hslash name' (List.mem_filter.mp hm').1)] at hlast
    exact String.toList_injective hlast
  · intro path hm
    obtain ⟨name, hname, rfl⟩ := List.mem_map.mp (List.mem_filter.mp hm).1
    obtain ⟨hlisted, hsuffix⟩ := List.mem_filter.mp hname
    obtain ⟨head, hhead⟩ := List.isSuffixOf_iff_suffix.mp hsuffix
    exact ⟨head, hhead ▸ hslash name hlisted, by rw [hhead]; rfl⟩

namespace Types

theorem lastPiece_chartPath (out path : Path) (count : Nat) :
    Path.lastPiece (chartPath out path count).chars =
      path.stem ++ "_count".toList ++ Decimal.digits count ++ ".png".toList := by
  have hname : (s!"_count{count}.png").toList =
      "_count".toList ++ Decimal.digits count ++ ".png".toList := by
    simp [toString, Decimal.digits]
  have hdigits : '/' ∉ Decimal.digits count := fun hm =>
    Decimal.ne_of_isDigit (Decimal.isDigit_of_mem_digits hm) (by decide) rfl
  rw [chartPath, Path.lastPiece_join, hname, Path.lastPiece_of_notMem]
  · simp only [List.append_assoc]
  · simp [Path.slash_notMem_stem, hdigits]

/-- The stem and the count are told from the name of a chart, whatever the stem ends with. -/
theorem apart_chartPath (out : Path) {path path' : Path} {count count' : Nat}
    (h : ¬(path.stem = path'.stem ∧ count = count')) :
    (chartPath out path count).Apart (chartPath out path' count') := by
  have hlong (path : Path) (count : Nat) :
      2 < (Path.lastPiece (chartPath out path count).chars).length := by
    rw [lastPiece_chartPath]
    simp
    omega
  have hnondigit (stem : List Char) :
      ∀ c ∈ (stem ++ "_count".toList).getLast?, c.isDigit = false := by
    intro c hc
    rw [List.getLast?_append] at hc
    cases hc
    decide
  apply Path.apart_of_lastPiece_ne (hlong path count) (hlong path' count')
  rw [lastPiece_chartPath, lastPiece_chartPath]
  intro he
  obtain ⟨hstem, hcount⟩ := Decimal.append_digits_inj (hnondigit _) (hnondigit _)
    (List.append_cancel_right he)
  exact h ⟨List.append_cancel_right hstem, hcount⟩

theorem eq_join_stem_of_mem_files {tree : FileTree} (h : tree.WellFormed) {input path : Path}
    {paths : List Path} (hp : tree.filesWithSuffix input suffix = .ok paths) (hm : path ∈ paths) :
    path = input / ⟨path.stem ++ ".json".toList⟩ := by
  obtain ⟨head, hslash, he⟩ := (h.names_of_filesWithSuffix hp).2 path hm
  have hname : head ++ suffix.toList = head ++ "_types".toList ++ '.' :: "json".toList :=
    (List.append_assoc head "_types".toList ('.' :: "json".toList)).symm
  have hlast : Path.lastPiece path.chars = head ++ "_types".toList ++ '.' :: "json".toList := by
    rw [he, Path.lastPiece_join, Path.lastPiece_of_notMem hslash, hname]
  rw [Path.stem_eq_of_lastPiece hlast (by simp) (by decide) (by decide), he, hname]
  rfl

/-- The counts in a file; there are none if it cannot be read. -/
def counts (tree : FileTree) (path : Path) : List Nat :=
  match (tree.document path).2 with
  | .error _ => []
  | .ok document => (Dataset.extract document groupSet).allCounts

def fileCharts (setting : Setting) (tree : FileTree) (out path : Path) : List (Chart × Path) :=
  let title := Source.stemTitle path.stem
  match (tree.document path).2 with
  | .error _ => []
  | .ok document => charts setting out title ⟨title, 0, path, .extract document groupSet⟩

section

variable (setting : Setting) (tree : FileTree) (request : ReportRequest) (out path : Path)

theorem nodup_counts : (counts tree path).Nodup := by
  unfold counts
  split
  · exact List.nodup_nil
  · next document _ =>
    exact (Dataset.sound_extract document groupSet).allCounts_ascending.imp Nat.ne_of_lt

theorem paths_fileCharts :
    (fileCharts setting tree out path).map (·.2) = (counts tree path).map (chartPath out path) := by
  unfold fileCharts counts
  cases (tree.document path).2 with
  | error e => rfl
  | ok document =>
    dsimp only
    rw [charts, List.map_filterMap, ← List.filterMap_eq_map]
    apply List.filterMap_congr
    intro count hc
    obtain ⟨chart, hchart⟩ := Option.isSome_iff_exists.mp
      ((chart?_isSome_iff (Source.stemTitle path.stem) setting.config).mpr hc)
    rw [hchart]
    rfl

theorem drawn_filePlan :
    (filePlan setting tree request out path).drawn = fileCharts setting tree out path := by
  unfold fileCharts
  cases hd : (tree.document path).2 with
  | error e =>
    rw [filePlan_eq, hd, Plan.drawn_append, Plan.drawn_said]
    rfl
  | ok document =>
    have hdrawing (drawn : Chart × Path) :
        Plan.drawn (Setting.drawingSteps request xLabel drawn.1 drawn.2) = [drawn] := by
      rw [Setting.drawingSteps, Plan.drawn_append, Plan.drawn_said]
      rfl
    have hnothing (b : Bool) (text : String) :
        Plan.drawn (if b then [.say (.warning text)] else []) = [] := by
      cases b <;> rfl
    rw [filePlan_of_document hd]
    dsimp only
    rw [Plan.drawn_append, Plan.drawn_append, Plan.drawn_said, Plan.drawn_flatMap, hnothing,
      List.append_nil, List.nil_append]
    simp only [hdrawing, List.flatMap_singleton']

theorem drawn_plan :
    (plan setting tree request).drawn =
      ((tree.filesWithSuffix request.input suffix).toOption.getD []).flatMap
        (fileCharts setting tree (request.out.getD standardOut)) := by
  unfold plan
  cases tree.filesWithSuffix request.input suffix with
  | error e => rfl
  | ok paths =>
    dsimp only [Except.toOption, Option.getD_some]
    rw [Plan.drawn_append, Plan.drawn_said, List.nil_append]
    split
    · next hnone =>
      rw [List.isEmpty_iff.mp hnone]
      rfl
    · rw [Plan.drawn_flatMap]
      exact List.flatMap_congr fun path _ => drawn_filePlan setting tree request _ path

def measured (tree : FileTree) (paths : List Path) : List (Path × Nat) :=
  paths.flatMap fun path => (counts tree path).map fun count => (path, count)

theorem length_measured (paths : List Path) :
    (measured tree paths).length = (paths.map fun path => (counts tree path).length).sum := by
  rw [measured, List.length_flatMap]
  simp only [List.length_map]

theorem nodup_measured {paths : List Path} (h : paths.Nodup) : (measured tree paths).Nodup := by
  apply List.nodup_flatMap.mpr
  refine ⟨fun path _ => (nodup_counts tree path).map (Prod.mk_right_injective path), ?_⟩
  refine h.imp fun hne => List.disjoint_left.mpr fun entry hm hm' => hne ?_
  obtain ⟨_, _, rfl⟩ := List.mem_map.mp hm
  obtain ⟨_, _, he⟩ := List.mem_map.mp hm'
  exact congrArg Prod.fst he.symm

theorem mem_of_mem_measured {paths : List Path} {entry : Path × Nat}
    (h : entry ∈ measured tree paths) : entry.1 ∈ paths := by
  obtain ⟨path, hm, he⟩ := List.mem_flatMap.mp h
  obtain ⟨_, _, rfl⟩ := List.mem_map.mp he
  exact hm

theorem paths_flatMap_fileCharts (paths : List Path) :
    (paths.flatMap (fileCharts setting tree out)).map (·.2) =
      (measured tree paths).map fun entry => chartPath out entry.1 entry.2 := by
  rw [measured, List.map_flatMap, List.map_flatMap]
  apply List.flatMap_congr
  intro path _
  rw [paths_fileCharts, List.map_map]
  rfl

end

/-- No two charts of a folder go to one place, be it for different files or different counts. A run
in which nothing goes wrong leaves one picture for each count of each file that can be read, and
changes no other file. -/
theorem charts_apart (setting : Setting) {tree : FileTree} (h : tree.WellFormed)
    (request : ReportRequest) :
    let paths := (tree.filesWithSuffix request.input suffix).toOption.getD []
    let outcome := setting.perform tree (plan setting tree request)
    paths.Nodup ∧
      (∀ out, ∀ path ∈ paths, ∀ path' ∈ paths, ∀ count count', ¬(path = path' ∧ count = count') →
        (chartPath out path count).Apart (chartPath out path' count')) ∧
      (outcome.failure = none → ∃ images : List Image,
        images.map (fun image => (image.chart, image.path)) =
            paths.flatMap (fileCharts setting tree (request.out.getD standardOut)) ∧
          images.length = (paths.map fun path => (counts tree path).length).sum ∧
          (images.map (·.place)).Nodup ∧ setting.Paints tree outcome.tree images) := by
  intro paths outcome
  have hfiles : paths.Nodup ∧ ∀ path ∈ paths,
      path = request.input / ⟨path.stem ++ ".json".toList⟩ := by
    unfold paths
    cases hp : tree.filesWithSuffix request.input suffix with
    | error e => exact ⟨List.nodup_nil, List.forall_mem_nil _⟩
    | ok paths =>
      exact ⟨(h.names_of_filesWithSuffix hp).1, fun _ hm => eq_join_stem_of_mem_files h hp hm⟩
  have hapart : ∀ out, ∀ path ∈ paths, ∀ path' ∈ paths, ∀ count count',
      ¬(path = path' ∧ count = count') →
      (chartPath out path count).Apart (chartPath out path' count') := by
    intro out path hm path' hm' count count' hne
    refine apart_chartPath out fun ⟨hstem, hcount⟩ => hne ⟨?_, hcount⟩
    rw [hfiles.2 path hm, hfiles.2 path' hm', hstem]
  refine ⟨hfiles.1, hapart, fun hok => ?_⟩
  obtain ⟨images, hdrawn, hpaints⟩ := Setting.paints_of_perform chartsOnly_plan hok
  rw [drawn_plan] at hdrawn
  have hpaths : images.map (·.path) = (measured tree paths).map fun entry =>
      chartPath (request.out.getD standardOut) entry.1 entry.2 := by
    rw [← paths_flatMap_fileCharts setting, ← hdrawn, List.map_map]
    rfl
  refine ⟨images, hdrawn, ?_, ?_, hpaints⟩
  · rw [← length_measured, ← List.length_map (·.path), hpaths, List.length_map]
  · apply Image.nodup_places hpaints.leads
    rw [hpaths, List.pairwise_map]
    refine (nodup_measured tree hfiles.1).imp_of_mem fun {entry entry'} hm hm' hne => ?_
    exact hapart _ _ (mem_of_mem_measured tree hm) _ (mem_of_mem_measured tree hm') _ _
      fun he => hne (Prod.ext he.1 he.2)

/-- The stem of one file continues the name of a chart of another one, and a third file is none that
can be read. -/
theorem charts_apart_continued :
    let rows (labels : List String) : Json := .object [("worker", .array (labels.map fun label =>
      .object [("name", .string label), ("avg", .int 5)]))]
    let tree : FileTree := .ofResults [("a_types.json", rows ["void (1)", "void (11)"]),
      ("a_types_count1_types.json", rows ["void (1)"]), ("b_types.json", .array [])]
    let setting : Setting := ⟨.standard, none⟩
    let out := Path.ofString "out"
    let request : ReportRequest := ⟨.ofString ".", some out, false⟩
    let outcome := setting.perform tree (plan setting tree request)
    let a := Path.ofString "./a_types.json"
    let b := Path.ofString "./a_types_count1_types.json"
    tree.WellFormed ∧ outcome.failure = none ∧
      (chartPath out a 1).Apart (chartPath out a 11) ∧
      (chartPath out a 11).Apart (chartPath out b 1) ∧
      ∃ images : List Image, images.length = 3 ∧ (images.map (·.place)).Nodup ∧
        setting.Paints tree outcome.tree images := by
  intro rows tree setting out request outcome a b
  have hwell : tree.WellFormed := ⟨by decide +kernel, by decide +kernel, by decide +kernel⟩
  have hlist : tree.list request.input =
      .ok ["a_types.json", "a_types_count1_types.json", "b_types.json"] :=
    congrArg Except.ok (List.mergeSort_of_pairwise (by decide))
  have hpaths : tree.filesWithSuffix request.input suffix =
      .ok [a, b, .ofString "./b_types.json"] := by
    rw [FileTree.filesWithSuffix, hlist]
    rfl
  have hok : outcome.failure = none := by
    unfold outcome plan
    rw [hpaths]
    exact Option.isNone_iff_eq_none.mp (by decide +kernel)
  have hsum : ([a, b, .ofString "./b_types.json"].map fun path => (counts tree path).length).sum =
      3 := by
    decide +kernel
  obtain ⟨-, hapart, himages⟩ := charts_apart setting hwell request
  rw [hpaths, Except.toOption, Option.getD_some] at hapart himages
  obtain ⟨images, -, hlength, hplaces, hpaints⟩ := himages hok
  exact ⟨hwell, hok, hapart out a (by simp) a (by simp) 1 11 (by decide),
    hapart out a (by simp) b (by simp) 11 1 (by decide), images, hlength.trans hsum, hplaces,
    hpaints⟩

end Types

end BenchCharts
